import Userscript.Json.Value
import Userscript.Number.Numeral

/-!
# Userscript.Json.Reader

Data read from JSON text.

Beside the standard the words `NaN`, `Infinity` and `-Infinity` are numbers. A numeral without point
and exponent is an integer. Of fields with one name the last one counts, at the place of the first.
Control characters in strings, a byte order mark and anything after the value are refused, and the
place of the first fault is told.
-/

namespace Userscript.Json

/-- What is wrong with a JSON text, and how many characters are left there. -/
inductive ReadFault where
  | at (left : Nat)
  | integer (digits : Nat)

def isSpace (c : Char) : Bool := c = ' ' || c = '\t' || c = '\n' || c = '\r'

def skipSpace (cs : List Char) : List Char := cs.dropWhile isSpace

def hexValue? (c : Char) : Option Nat :=
  if '0' ≤ c && c ≤ '9' then some (c.toNat - 48)
  else if 'a' ≤ c && c ≤ 'f' then some (c.toNat - 87)
  else if 'A' ≤ c && c ≤ 'F' then some (c.toNat - 55)
  else none

/-- The number of four hexadecimal digits and what follows them. -/
def hex4? : List Char → Option (Nat × List Char)
  | a :: b :: c :: d :: rest => do
    let a ← hexValue? a
    let b ← hexValue? b
    let c ← hexValue? c
    let d ← hexValue? d
    return (((a * 16 + b) * 16 + c) * 16 + d, rest)
  | _ => none

def unescape? (c : Char) : Option Char :=
  match c with
  | '"' => some '"'
  | '\\' => some '\\'
  | '/' => some '/'
  | 'b' => some (Char.ofNat 8)
  | 'f' => some (Char.ofNat 12)
  | 'n' => some '\n'
  | 'r' => some '\r'
  | 't' => some '\t'
  | _ => none

/-- A code unit that is half of a pair. -/
def isHigh (n : Nat) : Bool := 0xD800 ≤ n && n ≤ 0xDBFF

/-- A code unit that ends a pair. -/
def isLow (n : Nat) : Bool := 0xDC00 ≤ n && n ≤ 0xDFFF

/-- A code unit that stands alone, as a character; half a pair becomes the replacement character. -/
def unitChar (n : Nat) : Char :=
  if isHigh n || isLow n then Char.ofNat 0xFFFD else Char.ofNat n

/-- The string whose characters follow, up to the closing quote, and what comes after it. `start` is
how many characters were left at the opening quote, `out` what was read. -/
def readString (start : Nat) (out : Array Char) :
    Nat → List Char → Except ReadFault (String × List Char)
  | 0, cs => .error (.at cs.length)
  | _ + 1, [] => .error (.at start)
  | _ + 1, '"' :: rest => .ok (String.ofList out.toList, rest)
  | _ + 1, ['\\'] => .error (.at start)
  | fuel + 1, '\\' :: 'u' :: rest =>
    match rest with
    | _ :: _ :: _ :: _ :: _ :: _ =>
      match hex4? rest with
      | none => .error (.at (rest.length + 1))
      | some (n, after) =>
        match isHigh n, after with
        | true, '\\' :: 'u' :: more =>
          if more.length ≤ 4 then readString start (out.push (unitChar n)) fuel after
          else match hex4? more with
            | none => .error (.at (more.length + 1))
            | some (m, after') =>
              if isLow m then
                let c := Char.ofNat (0x10000 + (n - 0xD800) * 0x400 + (m - 0xDC00))
                readString start (out.push c) fuel after'
              else readString start (out.push (unitChar n)) fuel after
        | _, _ => readString start (out.push (unitChar n)) fuel after
    | _ => .error (.at (rest.length + 1))
  | fuel + 1, '\\' :: c :: rest =>
    match unescape? c with
    | some d => readString start (out.push d) fuel rest
    | none => .error (.at (rest.length + 2))
  | fuel + 1, c :: rest =>
    if c.toNat < 32 then .error (.at (rest.length + 1))
    else readString start (out.push c) fuel rest

/-- The digits at the front and what follows. -/
def spanDigits (cs : List Char) : List Nat × List Char :=
  ((cs.takeWhile Char.isDigit).map fun c => c.toNat - 48, cs.dropWhile Char.isDigit)

def takeMinus : List Char → Bool × List Char
  | '-' :: rest => (true, rest)
  | rest => (false, rest)

/-- The digits before a point, and what follows them. A zero at the front stands alone. -/
def takeWhole : List Char → List Nat × List Char
  | '0' :: rest => ([0], rest)
  | cs => spanDigits cs

/-- The digits behind a point, and what follows them. A point without digits is not taken. -/
def takeFraction : List Char → List Nat × List Char
  | '.' :: rest =>
    match spanDigits rest with
    | ([], _) => ([], '.' :: rest)
    | (ds, after) => (ds, after)
  | cs => ([], cs)

/-- The exponent, if there is one, and what follows it. -/
def takeExponent : List Char → Option Int × List Char
  | [] => (none, [])
  | c :: rest =>
    if c = 'e' || c = 'E' then
      let (down, ds) := Number.splitSign rest
      match spanDigits ds with
      | ([], _) => (none, c :: rest)
      | (es, after) => (some (if down then -(Number.ofDigits es : Int) else Number.ofDigits es), after)
    else (none, c :: rest)

/-- The number with the given parts: an integer, unless it has a fraction or an exponent. -/
def numberOf (limit negative : Bool) (whole fraction : List Nat) (exponent : Option Int) :
    Except ReadFault Json :=
  match fraction, exponent with
  | [], none =>
    if limit && Number.digitLimit < whole.length then .error (.integer whole.length)
    else
      let n : Int := Number.ofDigits whole
      .ok (.int (if negative then -n else n))
  | _, _ =>
    let digits := Number.ofDigits (whole ++ fraction)
    .ok (.num (.ofDecimal negative digits (exponent.getD 0 - fraction.length)))

def readNumber? (limit : Bool) (cs : List Char) : Option (Except ReadFault (Json × List Char)) :=
  let (negative, body) := takeMinus cs
  match takeWhole body with
  | ([], _) => none
  | (whole, rest) =>
    let (fraction, rest) := takeFraction rest
    let (exponent, rest) := takeExponent rest
    some ((numberOf limit negative whole fraction exponent).map fun v => (v, rest))

/-- The rest after a word, if the characters start with it. -/
def after? : List Char → List Char → Option (List Char)
  | [], cs => some cs
  | w :: ws, c :: cs => if w = c then after? ws cs else none
  | _ :: _, [] => none

/-- A value that is a word, and what follows it. -/
def readWord? (cs : List Char) : Option (Json × List Char) :=
  let word (w : String) (v : Json) := (after? w.toList cs).map fun rest => (v, rest)
  word "null" .null <|> word "true" (.bool true) <|> word "false" (.bool false) <|>
    word "NaN" (.num .nan) <|> word "Infinity" (.num (.infinity false)) <|>
    word "-Infinity" (.num (.infinity true))

mutual

/-- The value at the front, and what follows it. -/
def readValue (limit : Bool) : Nat → List Char → Except ReadFault (Json × List Char)
  | 0, cs => .error (.at cs.length)
  | fuel + 1, cs =>
    match cs with
    | '"' :: rest => do
      let (s, after) ← readString cs.length #[] (rest.length + 1) rest
      return (.str s, after)
    | '[' :: rest =>
      match skipSpace rest with
      | ']' :: after => .ok (.arr [], after)
      | inner => readItems limit fuel [] inner
    | '\x7b' :: rest =>
      match skipSpace rest with
      | '\x7d' :: after => .ok (.obj [], after)
      | inner => readFields limit fuel [] inner
    | _ =>
      match readWord? cs with
      | some r => .ok r
      | none => (readNumber? limit cs).getD (.error (.at cs.length))

/-- The items of a list up to its bracket; `items` are those before, last first. -/
def readItems (limit : Bool) :
    Nat → List Json → List Char → Except ReadFault (Json × List Char)
  | 0, _, cs => .error (.at cs.length)
  | fuel + 1, items, cs =>
    match readValue limit fuel cs with
    | .error e => .error e
    | .ok (v, rest) =>
      match skipSpace rest with
      | ']' :: after => .ok (.arr (v :: items).reverse, after)
      | ',' :: more => readItems limit fuel (v :: items) (skipSpace more)
      | other => .error (.at other.length)

/-- The fields of an object up to its brace; `pairs` are those before, last first. -/
def readFields (limit : Bool) :
    Nat → List (String × Json) → List Char → Except ReadFault (Json × List Char)
  | 0, _, cs => .error (.at cs.length)
  | fuel + 1, pairs, cs =>
    match cs with
    | '"' :: rest =>
      match readString cs.length #[] (rest.length + 1) rest with
      | .error e => .error e
      | .ok (k, rest) =>
        match skipSpace rest with
        | ':' :: more =>
          match readValue limit fuel (skipSpace more) with
          | .error e => .error e
          | .ok (v, rest) =>
            match skipSpace rest with
            | '\x7d' :: after => .ok (.obj (Fields.ofPairs ((k, v) :: pairs).reverse), after)
            | ',' :: more => readFields limit fuel ((k, v) :: pairs) (skipSpace more)
            | other => .error (.at other.length)
        | other => .error (.at other.length)
    | other => .error (.at other.length)

end

/-- Where or why a text is no JSON. -/
inductive TextFault where
  /-- The index of the first character that does not fit. -/
  | at (position : Nat)
  /-- An integer has too many digits. -/
  | integer (digits : Nat)

/-- The value that a text stands for. With `limit`, integers of more than `Number.digitLimit` digits
are refused. -/
def read (limit : Bool) (s : String) : Except TextFault Json :=
  let cs := s.toList
  let size := cs.length
  let place : ReadFault → TextFault
    | .at left => .at (size - left)
    | .integer digits => .integer digits
  match cs with
  | '\uFEFF' :: _ => .error (.at 0)
  | _ =>
    match readValue limit (size + 1) (skipSpace cs) with
    | .error e => .error (place e)
    | .ok (v, rest) =>
      match skipSpace rest with
      | [] => .ok v
      | more => .error (.at (size - more.length))

end Userscript.Json
