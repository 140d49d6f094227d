import Userscript.Machine.Equal
import Userscript.Machine.Shown
import Userscript.Number.Layout
import Userscript.Text.Case

/-!
# Userscript.Machine.Format

Values written in a format.

* `Memory.formatted` writes one value as a format asks for it: fill, side, sign, width, groups, precision and
  type, in this order, each of which may be left out;
* `Memory.filledIn` puts values in the places of a text that are marked by a percent sign.

Both give the kind and text of the error if a value does not fit its format.
-/

namespace Userscript.Machine

/-- The kind and text of an error. -/
abbrev Refusal := String × String

def Refusal.value (text : String) : Refusal := ("ValueError", text)

/-- An error about the type of a value. -/
def Refusal.type (text : String) : Refusal := ("TypeError", text)

/-! ## The parts of a format -/

structure Format where
  fill : Char := ' '
  side : Option Char := none
  sign : Char := '-'
  alternate : Bool := false
  width : Nat := 0
  group : Option Char := none
  precision : Option Nat := none
  type : Option Char := none

namespace Format

def isSide (c : Char) : Bool := c = '<' || c = '>' || c = '=' || c = '^'

def takeSide (f : Format) : List Char → Format × List Char
  | c :: d :: rest =>
    if isSide d then ({ f with fill := c, side := some d }, rest)
    else if isSide c then ({ f with side := some c }, d :: rest)
    else (f, c :: d :: rest)
  | [c] => if isSide c then ({ f with side := some c }, []) else (f, [c])
  | [] => (f, [])

def takeSign (f : Format) : List Char → Format × List Char
  | c :: rest =>
    if c = '+' || c = '-' || c = ' ' then ({ f with sign := c }, rest) else (f, c :: rest)
  | [] => (f, [])

/-- The mark of the alternate form, and the rest. -/
def takeAlternate (f : Format) : List Char → Format × List Char
  | '#' :: rest => ({ f with alternate := true }, rest)
  | rest => (f, rest)

/-- A zero before the width, and the rest. -/
def takeZero (f : Format) : List Char → Format × List Char
  | '0' :: rest =>
    if f.side.isNone then ({ f with fill := '0', side := some '=' }, rest) else (f, '0' :: rest)
  | rest => (f, rest)

def takeNumber (cs : List Char) : Option Nat × List Char :=
  match cs.takeWhile Char.isDigit with
  | [] => (none, cs)
  | ds => (some (ds.foldl (fun n c => n * 10 + (c.toNat - 48)) 0), cs.drop ds.length)

/-- The format that a text stands for. -/
def ofText? (s : String) : Option Format :=
  let (f, cs) := takeSide {} s.toList
  let (f, cs) := takeSign f cs
  let (f, cs) := takeAlternate f cs
  let (f, cs) := takeZero f cs
  let (width, cs) := takeNumber cs
  let f := { f with width := width.getD 0 }
  let (f, cs) := match cs with
    | ',' :: rest => ({ f with group := some ',' }, rest)
    | '_' :: rest => ({ f with group := some '_' }, rest)
    | rest => (f, rest)
  let dotted : Option (Format × List Char) := match cs with
    | '.' :: rest =>
      match takeNumber rest with
      | (some n, rest) => some ({ f with precision := some n }, rest)
      | (none, _) => none
    | rest => some (f, rest)
  match dotted with
  | some (f, []) => some f
  | some (f, [c]) => some { f with type := some c }
  | _ => none

/-- A text filled up to the width, on a side unless the format tells one. -/
def pad (f : Format) (side : Char) (sign body : String) : String :=
  let missing := f.width - (sign.length + body.length)
  let filler (n : Nat) := String.ofList (List.replicate n f.fill)
  match f.side.getD side with
  | '<' => sign ++ body ++ filler missing
  | '^' => filler (missing / 2) ++ sign ++ body ++ filler (missing - missing / 2)
  | '=' => sign ++ filler missing ++ body
  | _ => filler missing ++ sign ++ body

def signText (f : Format) (negative : Bool) : String :=
  if negative then "-" else if f.sign = '-' then "" else String.singleton f.sign

/-- Groups of digits from the right, with marks between them. -/
def grouped (size : Nat) (mark : Char) (digits : List Char) : List Char :=
  let step (out : List Char × Nat) (c : Char) : List Char × Nat :=
    if out.2 = size then (c :: mark :: out.1, 1) else (c :: out.1, out.2 + 1)
  (digits.reverse.foldl step ([], 0)).1

/-- The digits of a number before its point in groups. -/
def groupWhole (f : Format) (size : Nat) (s : String) : String :=
  match f.group with
  | none => s
  | some mark =>
    let whole := s.toList.takeWhile Char.isAlphanum
    String.ofList (grouped size mark whole ++ s.toList.drop whole.length)

/-- The sign and digits of a number, filled up to the width. -/
def number (f : Format) (negative : Bool) (mark digits : String) : String :=
  f.pad '>' (f.signText negative ++ mark) digits

/-- The digits of a natural in a base. -/
def digits (base n : Nat) : String := String.ofList (Nat.toDigits base n)

end Format

/-- A format code that a type does not know. -/
def unknownCode (c : Char) (type : String) : Refusal :=
  .value ("Unknown format code '" ++ String.singleton c ++ "' for object of type '" ++ type ++ "'")

/-- The refusal of an integer with too many digits to be written. -/
def unwritable : Refusal := .value Number.NumeralFault.unwritable.message

def Format.ofNumber (f : Format) (type : String) (x : Binary64) : Except Refusal String :=
  let upper (s : String) (c : Char) : String := if c.isUpper then Text.upper s else s
  let finish (s : String) : Except Refusal String :=
    .ok (f.number x.isNegative "" (f.groupWhole 3 s))
  if !x.isFinite then
    finish (upper (if x.isNaN then "nan" else "inf") (f.type.getD 'f') ++
      (if f.type = some '%' then "%" else ""))
  else
    let places := f.precision.getD 6
    match f.type with
    | some 'f' | some 'F' => finish (x.fixed places)
    | some 'e' => finish (x.withExponent places)
    | some 'E' => finish (Text.upper (x.withExponent places))
    | some 'g' | some 'n' => finish (x.general places f.alternate)
    | some 'G' => finish (Text.upper (x.general places f.alternate))
    | some '%' => finish ((x.mul (.ofRatio false 100 1)).fixed places ++ "%")
    | none =>
      match f.precision with
      | none => finish (if x.isNegative then x.neg.text else x.text)
      | some n =>
        let s := x.general n false
        finish (if s.toList.all Char.isDigit then s ++ ".0" else s)
    | some c => .error (unknownCode c type)

def Format.ofInt (f : Format) (type : String) (n : Int) : Except Refusal String :=
  let based (base size : Nat) (mark : String) : Except Refusal String :=
    if f.precision.isSome then .error (.value "Precision not allowed in integer format specifier")
    else if base = 10 && !(Datum.int n).isWritable then .error unwritable
    else .ok (f.number (n < 0) (if f.alternate then mark else "")
      (f.groupWhole size (digits base n.natAbs)))
  match f.type with
  | none | some 'd' | some 'n' => based 10 3 ""
  | some 'b' => based 2 4 "0b"
  | some 'o' => based 8 4 "0o"
  | some 'x' => based 16 4 "0x"
  | some 'X' => (based 16 4 "0x").map Text.upper
  | some 'c' =>
    if 0 ≤ n && n < 0x110000 then .ok (f.pad '<' "" (String.singleton (Char.ofNat n.toNat)))
    else .error ("OverflowError", "%c arg not in range(0x110000)")
  | some c =>
    if ['e', 'E', 'f', 'F', 'g', 'G', '%'].contains c then
      match Binary64.ofInt? n with
      | some x => f.ofNumber type x
      | none => .error ("OverflowError", "int too large to convert to float")
    else .error (unknownCode c type)

def Format.ofStr (f : Format) (s : String) : Except Refusal String :=
  let type := f.type.getD 's'
  if type ≠ 's' then .error (unknownCode type "str")
  else if f.sign ≠ '-' then .error (.value "Sign not allowed in string format specifier")
  else if f.alternate then
    .error (.value "Alternate form (#) not allowed in string format specifier")
  else if f.side = some '=' then
    .error (.value "'=' alignment not allowed in string format specifier")
  else if f.group.isSome then .error (.value "Cannot specify ',' with 's'.")
  else
    let cut := match f.precision with
      | some n => String.ofList (s.toList.take n)
      | none => s
    .ok (f.pad '<' "" cut)

/-- A text of a value, unless an integer in it has too many digits to be written. -/
def Memory.written (m : Memory) (text : Memory → Value → String) (v : Value) :
    Except Refusal String :=
  if m.isWritable v then .ok (text m v) else .error unwritable

def Memory.formatted (m : Memory) (v : Value) (spec : String) : Except Refusal String :=
  if spec = "" then m.written Memory.display v
  else match v with
    | .bool _ | .int _ | .num _ | .str _ =>
      match Format.ofText? spec, v with
      | none, _ => .error (.value ("Invalid format specifier"))
      | some f, .bool b => f.ofInt "bool" (if b then 1 else 0)
      | some f, .int n => f.ofInt "int" n
      | some f, .num x => f.ofNumber "float" x
      | some f, .str s => f.ofStr s
      | some _, v => .ok (m.display v)
    | v => .error (.type ("unsupported format string passed to " ++ m.typeName v ++ ".__format__"))

/-! ## Places marked by a percent sign -/

/-- A place in a text. -/
structure Slot where
  left : Bool := false
  plus : Bool := false
  blank : Bool := false
  zero : Bool := false
  alternate : Bool := false
  width : Nat := 0
  precision : Option Nat := none
  type : Char

/-- The flags before a type, and the rest. -/
def takeFlags (s : Slot) : List Char → Slot × List Char
  | '-' :: rest => takeFlags { s with left := true } rest
  | '+' :: rest => takeFlags { s with plus := true } rest
  | ' ' :: rest => takeFlags { s with blank := true } rest
  | '0' :: rest => takeFlags { s with zero := true } rest
  | '#' :: rest => takeFlags { s with alternate := true } rest
  | rest => (s, rest)

/-- A place after its percent sign, and the rest. -/
def takeSlot (cs : List Char) : Option (Slot × List Char) :=
  let (s, cs) := takeFlags { type := 's' } cs
  let (width, cs) := Format.takeNumber cs
  let (precision, cs) := match cs with
    | '.' :: rest =>
      let (n, rest) := Format.takeNumber rest
      (some (n.getD 0), rest)
    | cs => (none, cs)
  let cs := cs.dropWhile fun c => c = 'h' || c = 'l' || c = 'L'
  match cs with
  | c :: rest => some ({ s with width := width.getD 0, precision, type := c }, rest)
  | [] => none

namespace Slot

def text (s : Slot) (body : String) : String :=
  let cut := match s.precision with
    | some n => String.ofList (body.toList.take n)
    | none => body
  ({ width := s.width } : Format).pad (if s.left then '<' else '>') "" cut

/-- The format of a number in a place. -/
def format (s : Slot) : Format where
  width := s.width
  side := some (if s.left then '<' else if s.zero then '=' else '>')
  fill := if s.zero && !s.left then '0' else ' '
  sign := if s.plus then '+' else if s.blank then ' ' else '-'
  alternate := s.alternate
  precision := s.precision

def int (s : Slot) (n : Int) : Except Refusal String :=
  let base := if s.type = 'x' || s.type = 'X' then 16 else if s.type = 'o' then 8 else 10
  let mark := if !s.alternate then "" else if base = 16 then "0x" else if base = 8 then "0o" else ""
  let ds := Format.digits base n.natAbs
  let ds := String.ofList (List.replicate ((s.precision.getD 0) - ds.length) '0') ++ ds
  let written := s.format.number (n < 0) mark ds
  if base = 10 && !(Datum.int n).isWritable then .error unwritable
  else .ok (if s.type = 'X' then Text.upper written else written)

end Slot

def Memory.slotted (m : Memory) (s : Slot) (v : Value) : Except Refusal String :=
  match s.type with
  | 's' => (m.written Memory.display v).map s.text
  | 'r' => (m.written Memory.shown v).map s.text
  | 'a' => (m.written Memory.shown v).map fun t => s.text (Text.escapeBeyondAscii t)
  | 'c' =>
    match v with
    | .str t => if t.length = 1 then .ok (s.text t)
      else .error (.type "%c requires int or char")
    | .int n => if 0 ≤ n && n < 0x110000 then .ok (s.text (String.singleton (Char.ofNat n.toNat)))
      else .error ("OverflowError", "%c arg not in range(0x110000)")
    | _ => .error (.type "%c requires int or char")
  | c =>
    if ['d', 'i', 'u', 'x', 'X', 'o'].contains c then
      let whole := ['d', 'i', 'u'].contains c
      match v with
      | .bool b => s.int (if b then 1 else 0)
      | .int n => s.int n
      | .num x =>
        match x.trunc? with
        | some n => if whole then s.int n
          else .error (.type ("%" ++ String.singleton c ++ " format: an integer is required, not float"))
        | none =>
          if x.isNaN then .error (.value "cannot convert float NaN to integer")
          else .error ("OverflowError", "cannot convert float infinity to integer")
      | v =>
        .error (.type ("%" ++ String.singleton c ++ " format: " ++
          (if whole then "a real number" else "an integer") ++ " is required, not " ++ m.typeName v))
    else if ['e', 'E', 'f', 'F', 'g', 'G'].contains c then
      let write (x : Binary64) := { s.format with type := some c }.ofNumber "float" x
      match v with
      | .bool b => write (.ofRatio false (if b then 1 else 0) 1)
      | .int n =>
        match Binary64.ofInt? n with
        | some x => write x
        | none => .error ("OverflowError", "int too large to convert to float")
      | .num x => write x
      | v => .error (.type ("must be real number, not " ++ m.typeName v))
    else .error (.value ("unsupported format character '" ++ String.singleton c ++ "'"))

/-- The text with values in its places; `used` tells that the one value of a mapping was looked into. -/
def Memory.fillFrom (m : Memory) (mapping : Option (List (Value × Value))) (index : Nat) :
    Nat → List Char → List Value → Bool → String → Except Refusal (String × List Value × Bool)
  | 0, _, vs, used, out => .ok (out, vs, used)
  | fuel + 1, cs, vs, used, out =>
    let at? := index - cs.length
    match cs with
    | [] => .ok (out, vs, used)
    | '%' :: '%' :: rest => fillFrom m mapping index fuel rest vs used (out ++ "%")
    | '%' :: rest =>
      let named : Except Refusal (Option Value × List Char) :=
        match rest with
        | '(' :: more =>
          match mapping with
          | none => .error (.type "format requires a mapping")
          | some entries =>
            let name := more.takeWhile (· ≠ ')')
            match m.lookUp (.str (String.ofList name)) entries with
            | some v => .ok (some v, more.drop (name.length + 1))
            | none => .error ("KeyError", String.ofList name)
        | rest => .ok (none, rest)
      match named with
      | .error e => .error e
      | .ok (value?, rest) =>
        match takeSlot rest with
        | none => .error (.value "incomplete format")
        | some (s, rest) =>
          if !"sracdiuxXoeEfFgG".toList.contains s.type then
            .error (.value ("unsupported format character '" ++ String.singleton s.type ++ "' (0x" ++
              Format.digits 16 s.type.toNat ++ ") at index " ++ toString (at? + (cs.length - rest.length) - 1)))
          else
          match value?, vs with
          | some v, _ =>
            match m.slotted s v with
            | .error e => .error e
            | .ok t => fillFrom m mapping index fuel rest vs true (out ++ t)
          | none, v :: vs =>
            match m.slotted s v with
            | .error e => .error e
            | .ok t => fillFrom m mapping index fuel rest vs used (out ++ t)
          | none, [] => .error (.type "not enough arguments for format string")
    | c :: rest => fillFrom m mapping index fuel rest vs used (out.push c)

/-- A text with values in its places. -/
def Memory.filledIn (m : Memory) (template : String) (v : Value) : Except Refusal String :=
  let cs := template.toList
  let mapping := match v with
    | .ref r =>
      match m.get? r with
      | some (.dict entries) => some entries
      | _ => none
    | _ => none
  let hasItems := match v with
    | .bytes _ | .range .. => true
    | .ref r =>
      match m.get? r with
      | some (.list _) | some (.dict _) => true
      | _ => false
    | _ => false
  let vs := match v with
    | .tuple items => items
    | v => [v]
  match m.fillFrom mapping cs.length (cs.length + 1) cs vs false "" with
  | .error e => .error e
  | .ok (out, left, _) =>
    if left.isEmpty || hasItems then .ok out
    else .error (.type "not all arguments converted during string formatting")

end Userscript.Machine
