import Userscript.Text.Printable

/-!
# Userscript.Text.Quoted

Quoted text, as error messages and lists show it.

Single quotes enclose the text, or double quotes if it holds a single quote and no double one. The
backslash, the enclosing quote, line feed, carriage return and tab are escaped by a letter or by
themselves, and what is not printable by its code point in two, four or eight hexadecimal digits.
-/

namespace Userscript.Text

/-- The last `width` hexadecimal digits of a number. -/
def hex (width n : Nat) : String :=
  let ds := Nat.toDigits 16 n
  String.ofList (List.replicate (width - ds.length) '0' ++ ds)

def enclosing (cs : List Char) : Char :=
  if cs.contains '\'' && !cs.contains '"' then '"' else '\''

def quoteChar (quote c : Char) : String :=
  if c = quote || c = '\\' then String.ofList ['\\', c]
  else if c = '\n' then "\\n"
  else if c = '\r' then "\\r"
  else if c = '\t' then "\\t"
  else if isPrintable c then String.singleton c
  else
    let n := c.toNat
    if n < 0x100 then "\\x" ++ hex 2 n
    else if n < 0x10000 then "\\u" ++ hex 4 n
    else "\\U" ++ hex 8 n

/-- A text in which all characters beyond ASCII are escaped. -/
def escapeBeyondAscii (s : String) : String :=
  s.toList.foldl (fun out c =>
    out ++ if c.toNat < 128 then String.singleton c
      else
        let n := c.toNat
        if n < 0x100 then "\\x" ++ hex 2 n
        else if n < 0x10000 then "\\u" ++ hex 4 n
        else "\\U" ++ hex 8 n) ""

def quote (s : String) : String :=
  let q := enclosing s.toList
  let body := s.toList.foldl (fun out c => out ++ quoteChar q c) ""
  String.singleton q ++ body ++ String.singleton q

def quoteByte (quote : Char) (b : UInt8) : String :=
  let n := b.toNat
  let c := Char.ofNat n
  if n < 128 && (isPrintable c || c = '\n' || c = '\r' || c = '\t') then quoteChar quote c
  else "\\x" ++ hex 2 n

/-- Bytes between quotes, marked by a leading `b`. -/
def quoteBytes (bs : List UInt8) : String :=
  let q := enclosing (bs.map fun b => Char.ofNat b.toNat)
  let body := bs.foldl (fun out b => out ++ quoteByte q b) ""
  "b" ++ String.singleton q ++ body ++ String.singleton q

end Userscript.Text
