import Userscript.Text.Utf8
import Userscript.Url.Bracketed

/-!
# Userscript.Net.Percent

Percent encoding: each byte of a character that may not stand for itself becomes `%` and two hexadecimal
digits.
-/

namespace Userscript.Net

def hexDigit (n : Nat) : Char := Char.ofNat (if n < 10 then 48 + n else 55 + n)

def percentByte (b : UInt8) : List Char := ['%', hexDigit (b.toNat / 16), hexDigit (b.toNat % 16)]

/-- A text in which only safe characters stand for themselves. -/
def percentEncode (safe : Char → Bool) (cs : List Char) : List Char :=
  cs.flatMap fun c =>
    if safe c then [c] else (Text.utf8 (String.singleton c)).flatMap percentByte

def hexValue (c : Char) : Nat :=
  if c.isDigit then c.toNat - 48 else c.toLower.toNat - 87

/-- The bytes that a text in percent encoding stands for. -/
def percentBytes : List Char → List UInt8
  | '%' :: a :: b :: rest =>
    if Url.isHexDigit a && Url.isHexDigit b then
      UInt8.ofNat (hexValue a * 16 + hexValue b) :: percentBytes rest
    else 37 :: percentBytes (a :: b :: rest)
  | c :: rest => Text.utf8 (String.singleton c) ++ percentBytes rest
  | [] => []

/-- The text that a text in percent encoding stands for. -/
def percentDecode (cs : List Char) : List Char :=
  (Text.ofUtf8 (percentBytes cs)).map (·.getD '\uFFFD')

def isVisible (c : Char) : Bool := 0x20 ≤ c.toNat && c.toNat < 0x7F

/-- A letter, a digit, or one of the marks that stand for themselves everywhere. -/
def isUnreserved (c : Char) : Bool := c.isAlphanum || "-._~".toList.contains c

end Userscript.Net
