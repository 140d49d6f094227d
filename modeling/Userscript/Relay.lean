import Userscript.Machine.Exec
import Userscript.Net.Client

/-!
# Userscript.Relay

The requests that scripts hand in: made ready from their details, sent by one of two clients, answered to the
script.

A request goes out with the cookies of the page, unless it is anonymous: the client for anonymous requests
keeps a jar of its own, which starts empty.

* `Relay.prepare` reads the details of a request, which may fail as any code of a script may;
* `Relay.payload` is what a script gets of a response, `Relay.errorValue` what it gets of a failure;
* `Relay.News` is what comes of a request, and `News.reaches` whether the script gets it.
-/

namespace Userscript

open Machine Net

/-- The two clients of a page, and what they start with. -/
structure Relay where
  cookies : List (String × Option String) := []
  userAgent : String := "MiniUSM/1.0 (+relay)"
  followsRedirects : Bool := true
  credentialed : Client
  anonymous : Client

namespace Relay

/-- The relay of a page with cookies. -/
def new (cookies : List (String × Option String)) (userAgent : String) (followsRedirects : Bool) : Relay :=
  let plain : Client := { userAgent, followsRedirects }
  { cookies, userAgent, followsRedirects
    credentialed := { plain with jar := .ofPage cookies }
    anonymous := plain }

/-- The relay with clients that start anew. -/
def closed (r : Relay) : Relay := new r.cookies r.userAgent r.followsRedirects

def client (r : Relay) (anonymous : Bool) : Client := if anonymous then r.anonymous else r.credentialed

/-- The relay after its client sent a request. -/
def keep (r : Relay) (anonymous : Bool) (c : Client) : Relay :=
  if anonymous then { r with anonymous := c } else { r with credentialed := c }

/-! ## Details -/

/-- The details of a request: what the script said under each name. -/
abbrev Details := List (Value × Value)

/-- A request as a script wants it. -/
structure Wanted where
  method : String
  url : String
  headers : List (String × String)
  anonymous : Bool
  body : List UInt8

/-- What the details say under a name. -/
def detail (d : Details) (name : String) : Act Value :=
  Act.look fun m => (m.lookUp (.str name) d).getD .none

/-- What the details say under a name, unless it counts as nothing. -/
def detail? (d : Details) (name : String) : Act (Option Value) := do
  let v ← detail d name
  return if ← Act.look (·.truthy v) then some v else Option.none

/-- The bytes that are sent for data. -/
def bodyOf (method : String) (data : Value) : Act (List UInt8) := do
  if method = "GET" then return []
  match data with
  | .none => return []
  | .bytes bs => return bs
  | .str s => return Text.utf8 s
  | v =>
    let d ← Act.look (·.datum v)
    match d.toJson with
    | .ok j => return Text.utf8 j.text
    | .error e => Act.raise (if e.isKind then "TypeError" else "ValueError") e.message

/-- The headers that details give, as text. -/
def headersOf (d : Details) : Act (List (String × String)) := do
  let entries ← match ← detail? d "headers" with
    | some v => Method.gatherEntries calls "dict" [] [v] []
    | Option.none => pure []
  let texts ← Act.each (fun (k, v) => return (← Act.written Memory.display k, ← Act.written Memory.display v)) entries
  return Fields.ofPairs texts

/-- The method that details give, in capitals. -/
def methodOf (d : Details) : Act String := do
  match ← detail? d "method" with
  | some v => return Text.upper (← Act.written Memory.display v)
  | Option.none => return "GET"

/-- What details give beside the method. -/
def wantedOf (d : Details) (method : String) : Act Wanted := do
  let headers ← headersOf d
  let anonymous := (← detail? d "anonymous").isSome
  let url ← detail d "url"
  let url ← Act.written Memory.display url
  let body ← bodyOf method (← detail d "data")
  return { method, url, headers, anonymous, body }

def prepare (d : Details) : Act Wanted := do wantedOf d (← methodOf d)

/-! ## Answers -/

/-- What a script gets of a response. -/
def payload (address : Address) (r : Response) : Act Value :=
  Act.make (.dict [(.str "finalUrl", .str address.text), (.str "status", .int r.status),
    (.str "statusText", .str (statusText r.status)), (.str "responseText", .str r.text),
    (.str "responseHeaders", .str (Header.render r.headers))])

/-- What a script gets of a failure. -/
def errorValue (f : Failure) : Act Value := Act.make (.error f.kind [.str f.message] [])

inductive News where
  /-- Its method could not be read, or reading the details did not come to an end. -/
  | unread (t : Trouble)
  /-- The rest of the details could not be read: the error in it. -/
  | misread (e : Value)
  /-- It could not be sent, or it was not answered. -/
  | failure (f : Failure)
  /-- A response came from an address. -/
  | response (address : Address) (r : Response)

/-- The address that details give, as it is. -/
def given (d : Details) (m : Memory) : Value := (m.lookUp (.str "url") d).getD .none

namespace News

def event : News → String
  | response .. => "onload"
  | _ => "onerror"

/-- What a script gets of the news. -/
def make : News → Act Value
  | unread t => Act.fail t
  | misread e => pure e
  | failure f => errorValue f
  | response address r => payload address r

/-- Whether the news get as far as the script. Nobody looks after the method; else the address that was asked for, an
error and the body of a response are put in words before the script is told, and news without words are lost. -/
def reaches (n : News) (d : Details) (m : Memory) : Bool :=
  match n with
  | unread _ => false
  | misread e => m.isWritable (given d m) && m.isWritable e
  | failure _ => m.isWritable (given d m)
  | response _ r => m.isWritable (given d m) && r.isReadable

end News

end Relay
end Userscript
