import Userscript.Net.Address
import Userscript.Net.Header
import Userscript.Net.Status
import Userscript.Text.Blank
import Userscript.Text.Charset

/-!
# Userscript.Net.Exchange

Requests and their responses, why a request may fail, and the network as the one who answers.

* `Failure.kind` and `Failure.message` are what scripts learn of a failure;
* `Response.text` is the body as the charset of its content type says, if that gives a text (`Response.isReadable`).
-/

namespace Userscript.Net

structure Request where
  method : String
  address : Address
  headers : Headers := []
  body : List UInt8 := []

structure Response where
  status : Int := 200
  headers : Headers := []
  body : List UInt8 := []

inductive Failure where
  /-- The address cannot be read. -/
  | badAddress (problem : String)
  /-- The address has no scheme, though cookies are to go with the request. -/
  | noScheme (address : String)
  /-- A header cannot be written. -/
  | unencodable (problem : String)
  /-- A request was sent on too many times. -/
  | tooManyRedirects
  /-- A response leads to an address that cannot be read. -/
  | badLocation (problem : String)
  /-- Anything that happens on the network: the name of its kind and its text. -/
  | network (kind text : String)

namespace Failure

/-- The name of the kind of error. -/
def kind : Failure → String
  | .badAddress _ => "InvalidURL"
  | .noScheme _ => "ValueError"
  | .unencodable _ => "UnicodeEncodeError"
  | .tooManyRedirects => "TooManyRedirects"
  | .badLocation _ => "RemoteProtocolError"
  | .network kind _ => kind

def message : Failure → String
  | .badAddress problem => problem
  | .noScheme address => "unknown url type: " ++ Text.quote address
  | .unencodable problem => problem
  | .tooManyRedirects => "Exceeded maximum allowed redirects."
  | .badLocation problem => "Invalid URL in location header: " ++ problem ++ "."
  | .network _ text => text

end Failure

/-- The network: it answers each request, knowing the requests before it. -/
abbrev Server := List Request → Request → Except Failure Response

/-! ## Content types -/

/-- A text cut at semicolons that are not in quotes. -/
def cutParameters (quoted : Bool) (piece : List Char) : List Char → List (List Char)
  | [] => [piece.reverse]
  | '\\' :: c :: rest =>
    if quoted then cutParameters quoted (c :: '\\' :: piece) rest
    else if c = ';' then ('\\' :: piece).reverse :: cutParameters false [] rest
    else cutParameters (c = '"') (c :: '\\' :: piece) rest
  | c :: rest =>
    if c = ';' && !quoted then piece.reverse :: cutParameters false [] rest
    else cutParameters (if c = '"' then !quoted else quoted) (c :: piece) rest

def unquoted (s : String) : String :=
  match s.toList with
  | '"' :: rest => if rest.getLast? = some '"' then String.ofList rest.dropLast else s
  | _ => s

/-- The value of a parameter of a content type. -/
def parameter? (name : String) (contentType : String) : Option String :=
  (cutParameters false [] contentType.toList).findSome? fun piece =>
    let (front, rest) := Url.partition '=' piece
    if Header.lowered (Text.trim (String.ofList front)) = name && piece.contains '=' then
      some (unquoted (Text.trim (String.ofList rest)))
    else none

/-- The charset that a content type names, if it is known. -/
def charset? (contentType : String) : Option Text.Charset :=
  (parameter? "charset" contentType).bind Text.Charset.ofName?

/-- Whether the body has a text: what the content type names as its charset need not be one. -/
def Response.isReadable (r : Response) : Bool :=
  match (Header.get? "content-type" r.headers).bind (parameter? "charset") with
  | some name => Text.Charset.canRead name r.body
  | none => true

/-- The text of a body, by its charset or else as UTF-8. -/
def Response.text (r : Response) : String :=
  (((Header.get? "content-type" r.headers).bind charset?).getD (.utf8 false)).read r.body

end Userscript.Net
