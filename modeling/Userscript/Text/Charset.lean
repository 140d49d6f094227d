import Userscript.Text.Utf8

/-!
# Userscript.Text.Charset

Text as bytes, by the charset that a header names.

* `Charset.ofName?` finds a charset by any of its names;
* `Charset.encode?` and `Charset.decode?` fail where a character or a byte has no counterpart;
* `Charset.read` puts the replacement character there instead;
* `Charset.canRead` tells whether that gives a text at all.
-/

namespace Userscript.Text

inductive Charset where
  /-- UTF-8; a leading mark is dropped and written if `marked`. -/
  | utf8 (marked : Bool)
  | ascii
  | latin1
  | latin9
  | western
  /-- UTF-16 in one byte order, or as a leading mark says. -/
  | utf16 (bigEndian : Option Bool)
deriving DecidableEq, Repr

namespace Charset

/-- A name in small letters, in which all but letters, digits and points count as one separator. -/
def plainName (name : String) : String :=
  let (out, _) := name.toList.foldl (fun ((out, gap) : List Char × Bool) c =>
    if c.isAlphanum || c = '.' then
      ((if gap && !out.isEmpty then c.toLower :: '_' :: out else c.toLower :: out), false)
    else (out, true)) ([], false)
  String.ofList out.reverse

def names : List (Charset × List String) := [
  (utf8 false, ["utf_8", "utf8", "u8", "utf", "utf8_ucs2", "utf8_ucs4", "cp65001"]),
  (utf8 true, ["utf_8_sig"]),
  (ascii, ["ascii", "us_ascii", "us", "646", "ansi_x3.4_1968", "ansi_x3_4_1968", "ansi_x3.4_1986",
    "cp367", "csascii", "ibm367", "iso646_us", "iso_646.irv_1991", "iso_ir_6"]),
  (latin1, ["latin_1", "latin1", "latin", "l1", "iso_8859_1", "iso8859_1", "iso8859", "8859", "cp819",
    "csisolatin1", "ibm819", "iso_8859_1_1987", "iso_ir_100"]),
  (latin9, ["iso8859_15", "iso_8859_15", "latin9", "l9"]),
  (western, ["cp1252", "windows_1252", "1252"]),
  (utf16 none, ["utf_16", "utf16", "u16"]),
  (utf16 (some false), ["utf_16_le", "utf_16le", "unicodelittleunmarked"]),
  (utf16 (some true), ["utf_16_be", "utf_16be", "unicodebigunmarked"])]

def ofName? (name : String) : Option Charset :=
  (names.find? fun (_, ns) => ns.contains (plainName name)).map (·.1)

/-- The characters of the bytes from 0x80 to 0x9F in the western charset; NUL where there is none. -/
def westernUpper : List Nat := [
  0x20AC, 0, 0x201A, 0x0192, 0x201E, 0x2026, 0x2020, 0x2021, 0x02C6, 0x2030, 0x0160, 0x2039, 0x0152, 0,
  0x017D, 0, 0, 0x2018, 0x2019, 0x201C, 0x201D, 0x2022, 0x2013, 0x2014, 0x02DC, 0x2122, 0x0161, 0x203A,
  0x0153, 0, 0x017E, 0x0178]

/-- The bytes that stand for other characters in Latin-9 than in Latin-1. -/
def latin9Changes : List (Nat × Nat) := [
  (0xA4, 0x20AC), (0xA6, 0x0160), (0xA8, 0x0161), (0xB4, 0x017D), (0xB8, 0x017E), (0xBC, 0x0152),
  (0xBD, 0x0153), (0xBE, 0x0178)]

def ofByte? (c : Charset) (b : Nat) : Option Char :=
  match c with
  | ascii => if b < 0x80 then some (Char.ofNat b) else none
  | latin9 => some (Char.ofNat (((latin9Changes.find? (·.1 = b)).map (·.2)).getD b))
  | western =>
    if 0x80 ≤ b && b < 0xA0 then
      let n := westernUpper.getD (b - 0x80) 0
      if n = 0 then none else some (Char.ofNat n)
    else some (Char.ofNat b)
  | _ => some (Char.ofNat b)

def units (c : Char) : List Nat :=
  let n := c.toNat
  if n < 0x10000 then [n] else [0xD800 + (n - 0x10000) / 0x400, 0xDC00 + (n - 0x10000) % 0x400]

def unitBytes (bigEndian : Bool) (n : Nat) : List UInt8 :=
  let bs := [UInt8.ofNat (n / 256), UInt8.ofNat (n % 256)]
  if bigEndian then bs else bs.reverse

/-- Bytes as units; an odd byte at the end is `none`. -/
def toUnits (bigEndian : Bool) : List UInt8 → List (Option Nat)
  | [] => []
  | [_] => [none]
  | a :: b :: rest =>
    (some (if bigEndian then a.toNat * 256 + b.toNat else b.toNat * 256 + a.toNat)) :: toUnits bigEndian rest

def ofUnits : List (Option Nat) → List (Option Char)
  | [] => []
  | none :: rest => none :: ofUnits rest
  | [some n] => [if 0xD800 ≤ n && n < 0xE000 then none else some (Char.ofNat n)]
  | some n :: some m :: rest =>
    if 0xD800 ≤ n && n < 0xDC00 && 0xDC00 ≤ m && m < 0xE000 then
      some (Char.ofNat (0x10000 + (n - 0xD800) * 0x400 + (m - 0xDC00))) :: ofUnits rest
    else (if 0xD800 ≤ n && n < 0xE000 then none else some (Char.ofNat n)) :: ofUnits (some m :: rest)
  | some n :: none :: rest =>
    (if 0xD800 ≤ n && n < 0xE000 then none else some (Char.ofNat n)) :: none :: ofUnits rest

/-- The characters of bytes, with `none` for what has no counterpart. -/
def characters (c : Charset) (bs : List UInt8) : List (Option Char) :=
  match c, bs with
  | utf8 true, 0xEF :: 0xBB :: 0xBF :: rest => ofUtf8 rest
  | utf8 _, bs => ofUtf8 bs
  | utf16 none, 0xFE :: 0xFF :: rest => ofUnits (toUnits true rest)
  | utf16 none, 0xFF :: 0xFE :: rest => ofUnits (toUnits false rest)
  | utf16 order, bs => ofUnits (toUnits (order.getD false) bs)
  | c, bs => bs.map fun b => c.ofByte? b.toNat

/-- The text of bytes, unless a byte has no counterpart. -/
def decode? (c : Charset) (bs : List UInt8) : Option String :=
  ((c.characters bs).mapM id).map String.ofList

/-- The text of bytes, with the replacement character for what has no counterpart. -/
def read (c : Charset) (bs : List UInt8) : String :=
  String.ofList ((c.characters bs).map (·.getD '\uFFFD'))

/-- The names of codecs that turn bytes into bytes or texts into texts, though charsets are named in their place. -/
def textless : List String := [
  "base64", "base_64", "base64_codec", "bz2", "bz2_codec", "hex", "hex_codec", "quopri", "quopri_codec",
  "quoted_printable", "quotedprintable", "uu", "uu_codec", "zip", "zlib", "zlib_codec", "rot13", "rot_13", "idna",
  "undefined"]

/-- Whether bytes have a text by the charset of a name, with replacement. A codec that is no charset gives none, and
UTF-16 in either byte order needs its mark. -/
def canRead (name : String) (bs : List UInt8) : Bool :=
  bs.isEmpty || (!textless.contains (plainName name) &&
    (ofName? name ≠ some (utf16 none) || match bs with
      | 0xFE :: 0xFF :: _ | 0xFF :: 0xFE :: _ => true
      | bs => bs.length = 1))

def toByte? (c : Charset) (x : Char) : Option UInt8 :=
  ((List.range 256).find? fun b => c.ofByte? b = some x).map UInt8.ofNat

/-- The bytes of a text, unless a character has no counterpart. -/
def encode? (c : Charset) (s : String) : Option (List UInt8) :=
  match c with
  | utf8 marked => some ((if marked then [0xEF, 0xBB, 0xBF] else []) ++ Text.utf8 s)
  | utf16 order =>
    let bigEndian := order.getD false
    some ((if order.isNone then [0xFF, 0xFE] else []) ++
      (s.toList.flatMap units).flatMap (unitBytes bigEndian))
  | c => s.toList.mapM c.toByte?

end Charset
end Userscript.Text
