import Userscript.Net.Cookie
import Userscript.Text.Base64

/-!
# Userscript.Net.Client

A client that sends requests: it adds its own headers and the cookies of its jar, and goes where responses lead.

* `Client.request` makes a request ready, or tells why it cannot be sent;
* `Client.send` sends it, and what it leads to, and keeps the cookies that come back.
-/

namespace Userscript.Net

structure Client where
  jar : Jar := {}
  userAgent : String := ""
  followsRedirects : Bool := true
  /-- The time, in seconds. -/
  now : Int := 0

/-- How many times a request may be sent on. -/
def mostRedirects : Nat := 20

/-- What a client does: it keeps cookies, and the network has seen requests. -/
abbrev Sending := ExceptT Failure (StateM (Client × List Request))

namespace Client

/-- The address that a text stands for, by itself: without a place it is a path. -/
def addressOf (text : String) : Except Failure Address :=
  match Address.ofText text with
  | .error problem => .error (.badAddress problem)
  | .ok a =>
    if a.isAbsolute then .ok a
    else
      let target := String.ofList ('/' :: a.target.toList.dropWhile (· = '/'))
      match Address.ofText target with
      | .error problem => .error (.badAddress problem)
      | .ok a => .ok a

/-- Headers with the cookies that go with a request; a header for cookies that is there stays. -/
def withCookies (c : Client) (a : Address) (headers : Headers) : Except Failure Headers :=
  if c.jar.all.isEmpty then .ok headers
  else if a.scheme = "" then .error (.noScheme a.text)
  else match c.jar.header? c.now a with
    | none => .ok headers
    | some cookies =>
      if Header.has "cookie" headers then .ok headers
      else match Header.beyondAscii? cookies with
        | some problem => .error (.unencodable problem)
        | none => .ok (headers ++ [("cookie", cookies)])

/-- The header that user information stands for. -/
def authorization? (a : Address) : Option String :=
  let (user, password) := Url.partition ':' a.userinfo.toList
  let user := percentDecode user
  let password := percentDecode password
  if user.isEmpty && password.isEmpty then none
  else some ("Basic " ++ Text.base64 (Text.utf8 (String.ofList (user ++ [':'] ++ password))))

/-- A request made ready, or why it cannot be sent. -/
def request (c : Client) (method url : String) (headers : List (String × String)) (body : List UInt8) :
    Except Failure Request := do
  let address ← addressOf url
  let own ← (Header.ofPairs headers).mapError .unencodable
  let agent ← (Header.ofPairs [("user-agent", c.userAgent)]).mapError .unencodable
  let headers ← c.withCookies address (Header.update agent own)
  let headers := match authorization? address with
    | some text => Header.set "authorization" text headers
    | none => headers
  return { method, address, headers, body }

/-! ## Redirects -/

/-- The method of the request that a response leads to. -/
def redirectMethod (status : Int) (method : String) : String :=
  if (status = 303 || status = 302) && method ≠ "HEAD" then "GET"
  else if status = 301 && method = "POST" then "GET"
  else method

def sameOrigin (a b : Address) : Bool :=
  a.scheme = b.scheme && a.host = b.host && a.effectivePort = b.effectivePort

/-- Whether an address is the encrypted form of another. -/
def encrypts (plain other : Address) : Bool :=
  plain.host = other.host && plain.scheme = "http" && plain.effectivePort = some 80 &&
  other.scheme = "https" && other.effectivePort = some 443

/-- The address that a response leads to. -/
def redirectAddress (from' : Address) (location : String) : Except Failure Address := do
  let a ← (Address.ofText location).mapError .badLocation
  let a ← if a.scheme ≠ "" && a.host = "" then
      let authority := (if a.userinfo = "" then "" else a.userinfo ++ "@") ++ { from' with port := none }.place
      (Address.ofParts a.scheme.toList (authority ++ (a.port.map fun n => ":" ++ toString n).getD "").toList
        a.path.toList (a.query.map String.toList) (a.fragment.map String.toList)).mapError .badAddress
    else pure a
  let a ← if a.isAbsolute then pure a else (from'.join a).mapError .badAddress
  let hasFragment (a : Address) : Bool := a.fragment.any (· ≠ "")
  if hasFragment from' && !hasFragment a then return { a with fragment := from'.fragment } else return a

/-- The request that a response leads to. -/
def redirect (c : Client) (r : Request) (status : Int) (location : String) : Except Failure Request := do
  let method := redirectMethod status r.method
  let address ← redirectAddress r.address location
  let headers :=
    if sameOrigin address r.address || encrypts r.address address then r.headers
    else Header.erase "authorization" r.headers
  let becomesGet := method ≠ r.method && method = "GET"
  let headers := if becomesGet then Header.erase "content-length" headers else headers
  let headers ← c.withCookies address (Header.erase "cookie" headers)
  return { method, address, headers, body := if becomesGet then [] else r.body }

/-! ## Sending -/

/-- Sends one request over the network, and keeps the cookies that come back. -/
def exchange (server : Server) (r : Request) : Sending Response := do
  if !(r.address.scheme = "http" || r.address.scheme = "https") then
    throw (.network "UnsupportedProtocol" "unsupported protocol")
  let (c, seen) ← get
  set (c, seen ++ [r])
  let response ← server seen r
  set ({ c with jar := c.jar.take c.now r.address response.headers }, seen ++ [r])
  return response

/-- Sends a request and, at most `hops` times, what responses lead to. -/
def sendOn (server : Server) : Nat → Request → Sending (Request × Response)
  | 0, _ => throw .tooManyRedirects
  | hops + 1, r => do
    let response ← exchange server r
    let some location := Header.get? "location" response.headers | return (r, response)
    if !isRedirect response.status then return (r, response)
    let (c, _) ← get
    let next ← c.redirect r response.status location
    if c.followsRedirects then sendOn server hops next else return (r, response)

/-- Makes a request ready and sends it. The answer tells the last address as well. -/
def send (server : Server) (method url : String) (headers : List (String × String)) (body : List UInt8) :
    Sending (Request × Response) := do
  let (c, _) ← get
  let r ← c.request method url headers body
  sendOn server (mostRedirects + 1) r

end Client
end Userscript.Net
