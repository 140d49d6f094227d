import Userscript.Syntax.Tree
import Userscript.Number.Numeral

/-!
# Userscript.Syntax.Token.Number

Numbers as scripts write them: decimal, hexadecimal, octal and binary integers, decimal fractions with
exponents, and imaginary numbers. Single low lines may stand between digits.

* `numberEnd?` finds where a number ends, or tells that it is malformed;
* `numberValue` is what a number stands for.
-/

namespace Userscript.Syntax

def isHex (c : Char) : Bool := c.isDigit || ('a' ≤ c && c ≤ 'f') || ('A' ≤ c && c ≤ 'F')

/-- A character that can be part of an identifier, as far as one byte tells. -/
def mayContinueName (c : Char) : Bool := c.isAlphanum || c = '_' || 128 ≤ c.toNat

/-- What follows digits with single low lines between them; none after a low line that no digit
follows. -/
def afterDigits? (isDigit : Char → Bool) : List Char → Option (List Char)
  | '_' :: c :: rest => if isDigit c then afterDigits? isDigit rest else none
  | ['_'] => none
  | c :: rest => if isDigit c then afterDigits? isDigit rest else some (c :: rest)
  | [] => some []

/-- What follows the digits of a numeral with a base mark. At least one digit has to be there. -/
def afterBased? (isDigit : Char → Bool) (cs : List Char) : Option (List Char) :=
  match cs with
  | '_' :: c :: rest => if isDigit c then afterDigits? isDigit rest else none
  | c :: rest => if isDigit c then afterDigits? isDigit rest else none
  | [] => none

/-- Words that may follow a number without a blank, each cut to what has to be there. -/
def followers : List (List Char) :=
  ["and", "else", "for", "if", "in", "is", "or", "not"].map String.toList

/-- Whether a number may end before the characters. -/
def mayEndBefore (cs : List Char) : Bool :=
  followers.any (fun w => w.isPrefixOf cs) ||
  match cs with
  | c :: _ => !mayContinueName c
  | [] => true

/-- The characters, if a number may end before them. -/
def ended? (cs : List Char) : Option (List Char) := if mayEndBefore cs then some cs else none

/-- What follows an optional mark of the imaginary unit. -/
def afterUnit? : List Char → Option (List Char)
  | 'j' :: rest => ended? rest
  | 'J' :: rest => ended? rest
  | rest => ended? rest

/-- What follows an optional exponent and an optional imaginary unit. An `e` without digits belongs
to the word after the number. -/
def afterExponent? (cs : List Char) : Option (List Char) :=
  match cs with
  | e :: rest =>
    if e = 'e' || e = 'E' then
      match rest with
      | sign :: d :: more =>
        if sign = '+' || sign = '-' then
          if d.isDigit then (afterDigits? Char.isDigit more).bind afterUnit? else none
        else if sign.isDigit then (afterDigits? Char.isDigit (d :: more)).bind afterUnit?
        else ended? cs
      | [d] => if d.isDigit then afterUnit? [] else if d = '+' || d = '-' then none else ended? cs
      | [] => ended? cs
    else afterUnit? cs
  | [] => some []

/-- What follows the fraction of a number, after its point. -/
def afterPoint? (cs : List Char) : Option (List Char) :=
  match cs with
  | c :: rest =>
    if c.isDigit then (afterDigits? Char.isDigit rest).bind afterExponent? else afterExponent? cs
  | [] => some []

/-- What follows a decimal integer: a point, an exponent, an imaginary unit or the end. -/
def afterWhole? (cs : List Char) : Option (List Char) :=
  match cs with
  | '.' :: rest => afterPoint? rest
  | _ => afterExponent? cs

/-- What follows zeros with single low lines between them; none after a low line that no digit
follows. -/
def afterZeros? : List Char → Option (List Char)
  | '_' :: c :: rest =>
    if c = '0' then afterZeros? rest else if c.isDigit then some (c :: rest) else none
  | ['_'] => none
  | '0' :: rest => afterZeros? rest
  | rest => some rest

/-- What follows the number that the characters start with; none if it is malformed. -/
def numberEnd? (cs : List Char) : Option (List Char) :=
  match cs with
  | '0' :: c :: rest =>
    if c = 'x' || c = 'X' then (afterBased? isHex rest).bind ended?
    else if c = 'o' || c = 'O' then
      (afterBased? (fun d => '0' ≤ d && d ≤ '7') rest).bind fun after =>
        if after.head?.any Char.isDigit then none else ended? after
    else if c = 'b' || c = 'B' then
      (afterBased? (fun d => d = '0' || d = '1') rest).bind fun after =>
        if after.head?.any Char.isDigit then none else ended? after
    else
      (afterZeros? (c :: rest)).bind fun after =>
        if after.head?.any Char.isDigit then
          -- Zeros may lead the digits of a fraction, but not those of an integer.
          (afterDigits? Char.isDigit after).bind fun tail =>
            if tail.head?.any (fun m => ['.', 'e', 'E', 'j', 'J'].contains m) then afterWhole? tail
            else none
        else afterWhole? after
  | ['0'] => some []
  | '.' :: rest => afterPoint? rest
  | _ => (afterDigits? Char.isDigit cs).bind afterWhole?

/-- The value of digits in a base. -/
def basedValue (base : Nat) (cs : List Char) : Nat :=
  cs.foldl (fun n c =>
    if c = '_' then n
    else n * base + (if c.isDigit then c.toNat - 48
      else if 'a' ≤ c && c ≤ 'f' then c.toNat - 87 else c.toNat - 55)) 0

/-- What a number stands for; none if it has too many digits. -/
def numberValue (text : String) : Option Literal :=
  let cs := text.toList.filter (· ≠ '_')
  let decimal (cs : List Char) : Binary64 :=
    (Number.readDecimal? (String.ofList cs)).getD (.zero false)
  match cs with
  | '0' :: 'x' :: rest | '0' :: 'X' :: rest => some (.int (basedValue 16 rest))
  | '0' :: 'o' :: rest | '0' :: 'O' :: rest => some (.int (basedValue 8 rest))
  | '0' :: 'b' :: rest | '0' :: 'B' :: rest => some (.int (basedValue 2 rest))
  | _ =>
    if cs.getLast?.any (fun c => c = 'j' || c = 'J') then some (.imaginary (decimal cs.dropLast))
    else if cs.all Char.isDigit then
      if Number.digitLimit < cs.length then none else some (.int (basedValue 10 cs))
    else some (.num (decimal cs))

end Userscript.Syntax
