/-!
# Userscript.Text.Base64

Bytes as text of 64 characters, four for each three bytes.
-/

namespace Userscript.Text

def sixBits (n : Nat) : Char :=
  if n < 26 then Char.ofNat (65 + n)
  else if n < 52 then Char.ofNat (71 + n)
  else if n < 62 then Char.ofNat (n - 4)
  else if n = 62 then '+' else '/'

/-- Bytes as text, with marks for the bytes that lack at the end. -/
def base64Chars : List UInt8 → List Char
  | [] => []
  | [a] => [sixBits (a.toNat / 4), sixBits (a.toNat % 4 * 16), '=', '=']
  | [a, b] =>
    [sixBits (a.toNat / 4), sixBits (a.toNat % 4 * 16 + b.toNat / 16), sixBits (b.toNat % 16 * 4), '=']
  | a :: b :: c :: rest =>
    sixBits (a.toNat / 4) :: sixBits (a.toNat % 4 * 16 + b.toNat / 16) ::
      sixBits (b.toNat % 16 * 4 + c.toNat / 64) :: sixBits (c.toNat % 64) :: base64Chars rest

def base64 (bs : List UInt8) : String := String.ofList (base64Chars bs)

end Userscript.Text
