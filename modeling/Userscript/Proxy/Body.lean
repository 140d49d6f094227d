import Userscript.Text.Charset
import Userscript.Url.Authority

/-!
# Userscript.Proxy.Body

The body of a response as text, and text as its body.

A mark at the start of the body says what its charset is; without one it is the content type, and if that is
silent on the charset of markup, the markup itself. What is written follows the content type alone, or is UTF-8
where a character has no counterpart.
-/

namespace Userscript.Proxy.Body

/-- Marks at the start of a body, and the charsets that they stand for. -/
def marks : List (List UInt8 × String) := [
  ([0x00, 0x00, 0xFE, 0xFF], "utf-32be"), ([0xFF, 0xFE, 0x00, 0x00], "utf-32le"), ([0xFE, 0xFF], "utf-16be"),
  ([0xFF, 0xFE], "utf-16le"), ([0xEF, 0xBB, 0xBF], "utf-8-sig")]

/-- The charset that a content type names; nothing if it names none. -/
def named (contentType : String) : String :=
  let (type, parameters) := Url.partition ';' contentType.toList
  if !type.contains '/' then ""
  else
    let values := (Url.cutAll ';' parameters).filterMap fun piece =>
      let (name, value) := Url.partition '=' piece
      if piece.contains '=' && Text.trim (String.ofList name) = "charset" then
        some (Text.trim (String.ofList value))
      else none
    values.getLast?.getD ""

/-- The value after `charset=` at the front. -/
def valueAt? (cs : List Char) : Option (List Char) :=
  let isQuote (c : Char) : Bool := c = '\'' || c = '"'
  if cs.take 8 = "charset=".toList then
    let rest := cs.drop 8
    let rest := if rest.head?.any isQuote then rest.drop 1 else rest
    let value := rest.takeWhile fun c => !isQuote c && c ≠ '>'
    if value.isEmpty then none else some value
  else none

def lastValue? : List Char → Option (List Char)
  | [] => none
  | c :: rest =>
    match lastValue? rest with
    | some v => some v
    | none => valueAt? (c :: rest)

/-- The charset that markup in small letters names for itself, in the first `meta` element that names one. -/
def inMarkup? : List Char → Option (List Char)
  | [] => none
  | c :: rest =>
    let found :=
      if (c :: rest).take 5 = "<meta".toList then
        lastValue? (((rest.drop 4).takeWhile (· ≠ '>')).drop 1)
      else none
    match found with
    | some v => some v
    | none => inMarkup? rest

/-- The name of the charset of markup. -/
def ofMarkup (body : List UInt8) : String :=
  match inMarkup? (body.map fun b => (Char.ofNat b.toNat).toLower) with
  | some v => String.ofList (v.filter (·.toNat < 128))
  | none => "utf-8"

def charsetName (contentType : String) (body : List UInt8) : String :=
  match marks.find? fun m => m.1.isPrefixOf body with
  | some m => m.2
  | none =>
    let name :=
      if named contentType ≠ "" then named contentType
      else if Text.holds "json" contentType then "utf-8"
      else if Text.holds "html" contentType then ofMarkup body
      else ""
    if name = "" then "latin-1" else name

/-- The text of a body, if it is text in its charset. -/
def text? (contentType : String) (body : List UInt8) : Option String :=
  (Text.Charset.ofName? (charsetName contentType body)).bind (·.decode? body)

def ofText (contentType text : String) : List UInt8 :=
  ((Text.Charset.ofName? (charsetName contentType [])).bind (·.encode? text)).getD (Text.utf8 text)

end Userscript.Proxy.Body
