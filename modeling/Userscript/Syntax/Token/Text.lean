import Userscript.Syntax.Token.Number

/-!
# Userscript.Syntax.Token.Text

Texts as scripts write them: between single or double quotes, one or three of them, with letters in
front. `b` makes bytes, `r` leaves backslashes alone, and `f` fills in fields between braces.

* `Written.ofToken` takes a token apart into its letters and what stands between its quotes;
* `unescape?` and `unescapeBytes?` read escapes, and tell when one is malformed;
* `pieces` cuts a text with fields into literal pieces and fields, up to the first fault.
-/

namespace Userscript.Syntax

/-- A written text: what its letters say, and what stands between its quotes. The letters and the
opening quote are on the first line, so line feeds are counted from there. -/
structure Written where
  isBytes : Bool
  isRaw : Bool
  hasFields : Bool
  body : List Char

/-- The parts of the token of a text. -/
def Written.ofToken (token : String) : Written :=
  let cs := token.toList
  let letters := (cs.takeWhile fun c => c ≠ '"' && c ≠ '\'').map Char.toLower
  let quoted := cs.drop letters.length
  let size := match quoted with
    | a :: b :: c :: _ :: _ :: _ => if a = b && b = c then 3 else 1
    | _ => 1
  ⟨letters.contains 'b', letters.contains 'r', letters.contains 'f',
    (quoted.drop size).take (quoted.length - 2 * size)⟩

/-- The character that a letter stands for after a backslash. -/
def letterEscape? (c : Char) : Option (List Char) :=
  match c with
  | '\n' => some []
  | '\\' => some ['\\']
  | '\'' => some ['\'']
  | '"' => some ['"']
  | 'a' => some [Char.ofNat 7]
  | 'b' => some [Char.ofNat 8]
  | 'f' => some [Char.ofNat 12]
  | 'n' => some ['\n']
  | 'r' => some ['\r']
  | 't' => some ['\t']
  | 'v' => some [Char.ofNat 11]
  | _ => none

def isOctal (c : Char) : Bool := '0' ≤ c && c ≤ '7'

/-- The character of a code point; half of a pair stands for the replacement character. -/
def charOf? (n : Nat) : Option Char :=
  if 0x10FFFF < n then none
  else if 0xD800 ≤ n && n ≤ 0xDFFF then some (Char.ofNat 0xFFFD)
  else some (Char.ofNat n)

/-- The number of the next `count` hexadecimal digits and what follows them. -/
def hexDigits? (count : Nat) (cs : List Char) : Option (Nat × List Char) :=
  let ds := cs.take count
  if ds.length = count && ds.all isHex then some (basedValue 16 ds, cs.drop count) else none

/-- An escape after its backslash, as characters and what follows. A letter without a meaning keeps its
backslash. -/
def escape? (c : Char) (rest : List Char) : Option (List Char × List Char) :=
  match letterEscape? c with
  | some out => some (out, rest)
  | none =>
    let wide (count : Nat) := (hexDigits? count rest).bind fun (n, after) =>
      (charOf? n).map fun ch => ([ch], after)
    if isOctal c then
      let ds := c :: (rest.take 2).takeWhile isOctal
      (charOf? (basedValue 8 ds)).map fun ch => ([ch], rest.drop (ds.length - 1))
    else if c = 'x' then wide 2
    else if c = 'u' then wide 4
    else if c = 'U' then wide 8
    else if c = 'N' then
      match rest with
      | '\x7b' :: more =>
        let name := more.takeWhile (· ≠ '\x7d')
        if name.isEmpty || name.length = more.length then none
        else some ([Char.ofNat 0xFFFD], more.drop (name.length + 1))
      | _ => none
    else some (['\\', c], rest)

/-- The characters that a text with escapes stands for. -/
def unescapeFrom? : Nat → List Char → Option (List Char)
  | 0, _ => some []
  | fuel + 1, cs =>
    match cs with
    | [] => some []
    | '\\' :: c :: rest =>
      (escape? c rest).bind fun (out, after) => (unescapeFrom? fuel after).map (out ++ ·)
    | ['\\'] => none
    | c :: rest => (unescapeFrom? fuel rest).map (c :: ·)

/-- The characters that a text stands for. -/
def unescape? (raw : Bool) (cs : List Char) : Option (List Char) :=
  if raw || !cs.contains '\\' then some cs else unescapeFrom? cs.length cs

/-- The bytes that ASCII characters with escapes stand for. -/
def unescapeBytesFrom? : Nat → List Char → Option (List UInt8)
  | 0, _ => some []
  | fuel + 1, cs =>
    match cs with
    | [] => some []
    | '\\' :: c :: rest =>
      match letterEscape? c with
      | some out => (unescapeBytesFrom? fuel rest).map ((out.map fun ch => ch.toNat.toUInt8) ++ ·)
      | none =>
        if isOctal c then
          let ds := c :: (rest.take 2).takeWhile isOctal
          (unescapeBytesFrom? fuel (rest.drop (ds.length - 1))).map
            ((basedValue 8 ds).toUInt8 :: ·)
        else if c = 'x' then
          (hexDigits? 2 rest).bind fun (n, after) =>
            (unescapeBytesFrom? fuel after).map (n.toUInt8 :: ·)
        else (unescapeBytesFrom? fuel rest).map (fun bs => 92 :: c.toNat.toUInt8 :: bs)
    | ['\\'] => none
    | c :: rest => (unescapeBytesFrom? fuel rest).map (c.toNat.toUInt8 :: ·)

/-- The bytes that a text stands for. -/
def unescapeBytes? (raw : Bool) (cs : List Char) : Option (List UInt8) :=
  if raw then some (cs.map fun c => c.toNat.toUInt8) else unescapeBytesFrom? cs.length cs

/-- A piece of a text with fields. -/
inductive Piece where
  /-- Literal characters, escapes not yet read. -/
  | literal (cs : List Char)
  /-- A field: its expression, the line feeds before it, its source if that is shown too, its conversion
  and its format. -/
  | field (expr : List Char) (feeds : Nat) (shown : Option (List Char)) (conversion : Option Char)
      (format : Option (List Piece))
  /-- A fault; what follows does not matter. -/
  | broken

/-- How many line feeds the characters hold. -/
def feedsIn (cs : List Char) : Nat := cs.count '\n'

/-- Literal characters up to a field or to the end: how they end, and what follows. -/
structure Literals where
  chars : List Char
  /-- Whether a closing brace stands alone at their end. -/
  stray : Bool
  rest : List Char

/-- The literal characters up to the next field, or in a format up to the brace that closes it. Outside
formats a brace written twice stands for itself. In `named`, the name of a character is passed; `out` is
what was passed, last first. -/
def literals (raw nested named : Bool) (out : List Char) : List Char → Literals
  | [] => ⟨out.reverse, false, []⟩
  | c :: rest =>
    if named then literals raw nested (c ≠ '\x7d') (c :: out) rest
    else if c = '\\' && !raw then
      match rest with
      | 'N' :: '\x7b' :: more => literals raw nested true ('\x7b' :: 'N' :: c :: out) more
      | d :: more =>
        if d = '\x7b' || d = '\x7d' then literals raw nested false (c :: out) (d :: more)
        else literals raw nested false (d :: c :: out) more
      | [] => ⟨(c :: out).reverse, false, []⟩
    else if c = '\x7b' || c = '\x7d' then
      if nested then ⟨out.reverse, false, c :: rest⟩
      else match rest with
        | d :: more =>
          if d = c then literals raw nested false (c :: out) more
          else ⟨out.reverse, c = '\x7d', c :: rest⟩
        | [] => ⟨out.reverse, c = '\x7d', c :: rest⟩
    else literals raw nested false (c :: out) rest

def closingOf (c : Char) : Char :=
  if c = '(' then ')' else if c = '[' then ']' else '\x7d'

/-- The expression of a field and what follows it; none if it does not end as it has to. `stack` holds the
open brackets and `quote` the quote of a text that is open, with whether it is a long one. -/
def exprOf? (stack : List Char) (quote : Option (Char × Bool)) (out : List Char) :
    List Char → Option (List Char × List Char)
  | [] => none
  | '\\' :: _ => none
  | c :: rest =>
    match quote with
    | some (q, long) =>
      if c ≠ q then exprOf? stack quote (c :: out) rest
      else if !long then exprOf? stack none (c :: out) rest
      else match rest with
        | a :: b :: more =>
          if a = q && b = q then exprOf? stack none (b :: a :: c :: out) more
          else exprOf? stack quote (c :: out) (a :: b :: more)
        | rest => exprOf? stack quote (c :: out) rest
    | none =>
      if c = '\'' || c = '"' then
        match rest with
        | a :: b :: more =>
          if a = c && b = c then exprOf? stack (some (c, true)) (b :: a :: c :: out) more
          else exprOf? stack (some (c, false)) (c :: out) (a :: b :: more)
        | rest => exprOf? stack (some (c, false)) (c :: out) rest
      else if c = '(' || c = '[' || c = '\x7b' then exprOf? (c :: stack) none (c :: out) rest
      else if c = '#' then none
      else if stack.isEmpty && ['!', ':', '\x7d', '=', '<', '>'].contains c then
        match rest with
        | '=' :: more =>
          if ['!', '=', '<', '>'].contains c then exprOf? stack none ('=' :: c :: out) more
          else some (out.reverse, c :: rest)
        | rest =>
          if c = '<' || c = '>' then exprOf? stack none (c :: out) rest
          else some (out.reverse, c :: rest)
      else if c = ')' || c = ']' || c = '\x7d' then
        match stack with
        | [] => none
        | top :: below =>
          if closingOf top = c then exprOf? below none (c :: out) rest else none
      else exprOf? stack none (c :: out) rest

/-- White space that may surround an expression. -/
def isFieldBlank (c : Char) : Bool := c = ' ' || c = '\t' || c = '\n' || c = '\x0c'

/-- White space after the sign that shows a field's source. -/
def isShownBlank (c : Char) : Bool := c = ' ' || (9 ≤ c.toNat && c.toNat ≤ 13)

/-- The conversion of a field, if it has one; the outer answer is none if it is malformed. -/
def conversionOf? : List Char → Option (Option Char × List Char)
  | '!' :: c :: rest =>
    if (c = 's' || c = 'r' || c = 'a') && !rest.isEmpty then some (some c, rest) else none
  | ['!'] => none
  | rest => some (none, rest)

mutual

/-- The pieces of a text with fields and what follows them, up to the first fault. Formats hold fields of
their own, but no deeper. `total` counts the line feeds of the whole text. -/
def pieces (raw : Bool) (total : Nat) : Nat → Nat → List Char → List Piece × List Char
  | 0, _, _ => ([.broken], [])
  | fuel + 1, depth, cs =>
    let l := literals raw (depth ≠ 0) false [] cs
    let before := if l.chars.isEmpty then [] else [Piece.literal l.chars]
    if l.stray then (before ++ [.broken], [])
    else match l.rest with
      | '\x7b' :: rest =>
        match field raw total fuel depth rest with
        | (found, none) => (before ++ found, [])
        | (found, some rest) =>
          let (more, rest) := pieces raw total fuel depth rest
          (before ++ found ++ more, rest)
      | rest => (before, rest)

/-- A field after its opening brace, and what follows it unless it is at fault. -/
def field (raw : Bool) (total : Nat) : Nat → Nat → List Char → List Piece × Option (List Char)
  | 0, _, _ => ([.broken], none)
  | fuel + 1, depth, cs =>
    if 2 ≤ depth then ([.broken], none)
    else match exprOf? [] none [] cs with
      | none => ([.broken], none)
      | some (expr, rest) =>
        if expr.all isFieldBlank then ([.broken], none)
        else
          let feeds := total - feedsIn cs
          let gap := (rest.drop 1).takeWhile isShownBlank
          let (shown, rest) :=
            if rest.head? = some '=' then (some (expr ++ '=' :: gap), rest.drop (gap.length + 1))
            else (none, rest)
          match conversionOf? rest with
          | some (conversion, ':' :: more) =>
            let (format, after) := pieces raw total fuel (depth + 1) more
            match after with
            | '\x7d' :: rest => ([.field expr feeds shown conversion (some format)], some rest)
            | _ => ([.field expr feeds shown conversion (some format), .broken], none)
          | some (conversion, '\x7d' :: rest) =>
            ([.field expr feeds shown conversion none], some rest)
          | _ => ([.field expr feeds none none none, .broken], none)

end

/-- The pieces of a written text with fields. -/
def Written.pieces (w : Written) : List Piece :=
  (Syntax.pieces w.isRaw (feedsIn w.body) (2 * w.body.length + 2) 0 w.body).1

end Userscript.Syntax
