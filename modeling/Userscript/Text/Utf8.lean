/-!
# Userscript.Text.Utf8

UTF-8 as a machine over bytes: it knows how many continuation bytes are still owed and within which bounds the
next one lies. A byte out of bounds ends the malformed piece before it and is read anew.

* `utf8` gives the bytes of a text;
* `ofUtf8` gives the characters of bytes, with `none` for each malformed piece.
-/

namespace Userscript.Text

def utf8 (s : String) : List UInt8 := s.toUTF8.toList

/-- Where the machine stands: the value that was read so far, how many bytes are owed, and the bounds of the
next one. Nothing is owed between characters. -/
structure Utf8Place where
  value : Nat := 0
  owed : Nat := 0
  low : Nat := 0x80
  high : Nat := 0xBF

/-- What a byte between characters gives, and where the machine stands behind it. -/
def firstByte (b : Nat) : List (Option Char) × Utf8Place :=
  if b < 0x80 then ([some (Char.ofNat b)], {})
  else if b < 0xC2 then ([none], {})
  else if b < 0xE0 then ([], { value := b - 0xC0, owed := 1 })
  else if b = 0xE0 then ([], { value := 0, owed := 2, low := 0xA0 })
  else if b = 0xED then ([], { value := 13, owed := 2, high := 0x9F })
  else if b < 0xF0 then ([], { value := b - 0xE0, owed := 2 })
  else if b = 0xF0 then ([], { value := 0, owed := 3, low := 0x90 })
  else if b < 0xF4 then ([], { value := b - 0xF0, owed := 3 })
  else if b = 0xF4 then ([], { value := 4, owed := 3, high := 0x8F })
  else ([none], {})

/-- What a byte gives, and where the machine stands behind it. -/
def nextByte (p : Utf8Place) (b : Nat) : List (Option Char) × Utf8Place :=
  if p.owed = 0 then firstByte b
  else if p.low ≤ b && b ≤ p.high then
    let value := p.value * 64 + (b - 0x80)
    if p.owed = 1 then ([some (Char.ofNat value)], {}) else ([], { value, owed := p.owed - 1 })
  else
    let (out, p) := firstByte b
    (none :: out, p)

def ofUtf8From (p : Utf8Place) : List UInt8 → List (Option Char)
  | [] => if p.owed = 0 then [] else [none]
  | b :: rest =>
    let (out, p) := nextByte p b.toNat
    out ++ ofUtf8From p rest

/-- The characters of bytes, with `none` for each malformed piece. -/
def ofUtf8 (bs : List UInt8) : List (Option Char) := ofUtf8From {} bs

end Userscript.Text
