import Userscript.Net.Client

/-!
# Userscript.Net.Table

A network that answers from a table: the first entry for an address says what comes back. An address that is
not in the table gives back what was sent.
-/

namespace Userscript.Net

structure Route where
  address : String
  /-- The method that the entry is for; any if there is none. -/
  method : Option String := none
  status : Int := 200
  headers : List (String × String) := []
  body : String := ""
  charset : String := "utf-8"
  /-- The kind and the text of the error that comes instead of a response. -/
  failure : Option (String × String) := none

namespace Route

/-- A response with the length of its body, unless the headers tell it. -/
def measured (r : Response) : Response :=
  if r.body.isEmpty || Header.has "content-length" r.headers then r
  else { r with headers := r.headers ++ [("content-length", toString r.body.length)] }

def answer (r : Route) : Except Failure Response := do
  if let some (kind, text) := r.failure then throw (.network kind text)
  let headers ← (Header.ofPairs r.headers).mapError .unencodable
  match Text.Charset.ofName? r.charset with
  | none => throw (.network "LookupError" ("unknown encoding: " ++ r.charset))
  | some c =>
    match c.encode? r.body with
    | none => throw (.network "UnicodeEncodeError" "ordinal not in range")
    | some body => return measured { status := r.status, headers, body }

/-- Whether an entry is for a request. -/
def isFor (request : Request) (r : Route) : Bool :=
  r.address = request.address.text && r.method.all (· = request.method)

def server (routes : List Route) : Server := fun _ request =>
  match routes.find? (isFor request) with
  | some r => r.answer
  | none => .ok (measured { body := request.body })

end Route
end Userscript.Net
