import Userscript.Text.Blank
import Userscript.Text.Digit
import Userscript.Text.Quoted
import Userscript.Number.Binary64

/-!
# Userscript.Number.Numeral

Integers and decimal numbers read from text.

An integer numeral is an optional sign and decimal digits of any script, with single low lines
between digits and blanks around it. Integers are read from, and written to, at most
`digitLimit` digits.
-/

namespace Userscript.Number

/-- Most digits of an integer that is read from or written to text. -/
def digitLimit : Nat := 4300

inductive NumeralFault where
  | malformed (text : String)
  | tooManyDigits (count : Nat)
  | unwritable

def NumeralFault.message : NumeralFault → String
  | .malformed text =>
    "invalid literal for int() with base 10: " ++
      String.ofList ((Text.quote text).toList.take 200)
  | .tooManyDigits count =>
    s!"Exceeds the limit ({digitLimit} digits) for integer string conversion: value has " ++
      s!"{count} digits; use sys.set_int_max_str_digits() to increase the limit"
  | .unwritable =>
    s!"Exceeds the limit ({digitLimit} digits) for integer string conversion; " ++
      "use sys.set_int_max_str_digits() to increase the limit"

/-- Blanks around a numeral: of ASCII only the space and the controls U+0009 to U+000D. -/
def isNumeralBlank (c : Char) : Bool :=
  if c.toNat < 128 then c = ' ' || (9 ≤ c.toNat && c.toNat ≤ 13) else Text.isBlank c

/-- The values of digits with single low lines between them; none if the text is anything else. -/
def digitValues? : List Char → Option (List Nat)
  | [] => none
  | [c] => (Text.digitValue? c).map ([·])
  | c :: '_' :: rest => do
    let d ← Text.digitValue? c
    let ds ← digitValues? rest
    return d :: ds
  | c :: rest => do
    let d ← Text.digitValue? c
    let ds ← digitValues? rest
    return d :: ds

def ofDigits (ds : List Nat) : Nat :=
  ds.foldl (fun n d => n * 10 + d) 0

/-- The characters without the blanks around a numeral. -/
def numeralBody (s : String) : List Char :=
  ((s.toList.dropWhile isNumeralBlank).reverse.dropWhile isNumeralBlank).reverse

/-- An optional sign and what follows it. -/
def splitSign : List Char → Bool × List Char
  | '-' :: rest => (true, rest)
  | '+' :: rest => (false, rest)
  | rest => (false, rest)

/-- The integer that a text stands for. -/
def readInt (s : String) : Except NumeralFault Int :=
  let (negative, body) := splitSign (numeralBody s)
  match digitValues? body with
  | none => .error (.malformed s)
  | some ds =>
    if digitLimit < ds.length then .error (.tooManyDigits ds.length)
    else .ok (if negative then -(ofDigits ds : Int) else ofDigits ds)

def writeInt (n : Int) : Except NumeralFault String :=
  let s := toString n
  if Nat.pow 10 digitLimit ≤ n.natAbs then .error .unwritable else .ok s

/-- The digits that start the characters, with low lines between digits dropped, and the rest. -/
def takeDigits (out : List Nat) : List Char → List Nat × List Char
  | [] => (out.reverse, [])
  | '_' :: c :: rest =>
    match out, Text.digitValue? c with
    | _ :: _, some d => takeDigits (d :: out) rest
    | _, _ => (out.reverse, '_' :: c :: rest)
  | c :: rest =>
    match Text.digitValue? c with
    | some d => takeDigits (d :: out) rest
    | none => (out.reverse, c :: rest)

/-- The decimal number that a text stands for: digits with an optional point and an optional
exponent, or a spelling of infinity or of what is no number. -/
def readDecimal? (s : String) : Option Binary64 :=
  let (negative, body) := splitSign (numeralBody s)
  match (String.ofList body).toLower with
  | "inf" | "infinity" => some (.infinity negative)
  | "nan" => some .nan
  | _ =>
    let (whole, rest) := takeDigits [] body
    let (fraction, rest) :=
      match rest with
      | '.' :: rest => takeDigits [] rest
      | rest => ([], rest)
    if whole.isEmpty && fraction.isEmpty then none
    else
      let value (e : Int) :=
        Binary64.ofDecimal negative (ofDigits (whole ++ fraction)) (e - fraction.length)
      match rest with
      | [] => some (value 0)
      | c :: rest =>
        if c = 'e' || c = 'E' then
          let (down, ds) := splitSign rest
          match takeDigits [] ds with
          | ([], _) => none
          | (ds, []) => some (value (if down then -(ofDigits ds : Int) else ofDigits ds))
          | _ => none
        else none

end Userscript.Number
