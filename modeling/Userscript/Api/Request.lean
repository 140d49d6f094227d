import Userscript.Json.Reader
import Userscript.Message
import Userscript.Net.Address
import Userscript.Net.Percent
import Userscript.Text.Case

/-!
# Userscript.Api.Request

Requests to the engine over HTTP, and its replies.

* `Request.ofTarget` is the request for a target as a client writes it, path and query in one;
* `Request.message` reads the message in the body of a request, or tells why it is refused.
-/

namespace Userscript.Api

inductive Body where
  | nothing
  /-- Text that has still to be read. -/
  | text (s : String)
  /-- Data as a client sends it. -/
  | data (v : Json)

structure Request where
  method : String
  path : String
  query : List (String × String) := []
  body : Body := .nothing

inductive Content where
  | nothing
  | data (v : Json)
  /-- What is wrong with the request. -/
  | complaints (cs : List Complaint)

structure Reply where
  status : Nat
  content : Content

namespace Reply

/-- A reply that says in words what is wrong. -/
def detail (status : Nat) (text : String) : Reply := ⟨status, .data (.obj [("detail", .str text)])⟩

/-- The reply to a request that is not well formed. -/
def refused (cs : List Complaint) : Reply := ⟨422, .complaints cs⟩

end Reply

namespace Request

/-! ## Targets -/

/-- A text from a query: `+` stands for a blank. -/
def queryText (cs : List Char) : String :=
  String.ofList (Net.percentDecode (cs.map fun c => if c = '+' then ' ' else c))

/-- The names and values of a query. -/
def queryOf (query : String) : List (String × String) :=
  (((Url.cutAll '&' query.toList).filter fun p => !p.isEmpty).map fun piece =>
    let (name, value) := Url.partition '=' piece
    (queryText name, queryText value))

/-- The path that a target leads to; it starts with one slash. -/
def pathOf (target : List Char) : String :=
  String.ofList (Net.percentDecode ('/' :: target.dropWhile (· = '/')))

/-- The request for a target as a client writes it. What the client gives for the query takes the place of the
query of the target. -/
def ofTarget (method target : String) (query : Option (List (String × String))) (body : Body) :
    Except String Request :=
  (Net.Address.ofText target).map fun a => {
    method := Text.upper method
    path := pathOf a.path.toList
    query := query.getD ((a.query.map queryOf).getD [])
    body }

/-- The last value of a name in the query. -/
def last? (name : String) (r : Request) : Option String :=
  (r.query.reverse.find? (·.1 = name)).map (·.2)

/-! ## Bodies -/

/-- The text of a body without the mark of its encoding. -/
def unmarked (body : String) : String :=
  match body.toList with
  | '\uFEFF' :: cs => String.ofList cs
  | _ => body

/-- The reply to a request whose body breaks a rule at a place. -/
def brokenAt (rest : List Place) (rule : String) : Reply := .refused [⟨.name "body" :: rest, rule⟩]

/-- The data in the body, or the reply that refuses it. -/
def data (r : Request) : Except Reply Json :=
  match r.body with
  | .nothing | .text "" => .error (brokenAt [] "missing")
  | .data v => .ok v
  | .text s =>
    match Json.read true (unmarked s) with
    | .ok v => .ok v
    | .error (.at n) => .error (brokenAt [.index n] "json_invalid")
    | .error (.integer _) => .error (.detail 400 "There was an error parsing the body")

/-- The message in the body, or the reply that refuses it. -/
def message {α : Type} (check : Json → Message.Checked α) (r : Request) : Except Reply α :=
  match r.data with
  | .error reply => .error reply
  | .ok (.obj fields) =>
    match Message.within (.name "body") (check (.obj fields)) with
    | .ok m => .ok m
    | .error cs => .error (.refused cs)
  | .ok _ => .error (brokenAt [] "model_attributes_type")

end Request
end Userscript.Api
