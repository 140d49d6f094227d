import Userscript.Url.Authority

/-!
# Userscript.Proxy.Target

The URL by which a proxy knows a request.

A proxy keeps scheme, host, port and the rest apart, and puts them together again: user information is gone, a
port is shown unless the scheme implies it, what follows the host begins with a slash, and empty parameters,
queries and fragments are dropped.
-/

namespace Userscript.Proxy

/-- A request's place: the parts of its URL. -/
structure Target where
  scheme : String
  host : String
  port : Nat
  rest : String
deriving DecidableEq

namespace Target

def impliedPort? (scheme : String) : Option Nat :=
  match scheme with
  | "http" => some 80
  | "https" => some 443
  | _ => none

def url (t : Target) : String :=
  t.scheme ++ "://" ++ t.host ++ (if impliedPort? t.scheme = some t.port then "" else ":" ++ toString t.port) ++
    t.rest

/-! ## Reading -/

def portText (authority : List Char) : List Char :=
  let place := Url.afterLast '@' authority
  let after :=
    if place.contains '[' then (Url.partition ']' (Url.partition '[' place).2).2
    else place
  (Url.partition ':' after).2

/-- The port of a scheme and an authority; zero stands for the one that the scheme implies. -/
def portOf (scheme authority : List Char) : Except Fault Nat :=
  let text := portText authority
  let implied := if scheme = "https".toList then 443 else 80
  if text.isEmpty then .ok implied
  else if text.all Char.isDigit then
    let n := text.foldl (fun n c => n * 10 + (c.toNat - 48)) 0
    if 65535 < n then .error (.badValue "Port out of range 0-65535")
    else .ok (if n = 0 then implied else n)
  else .error (.badValue ("Port could not be cast to integer value as b" ++ Text.quote (String.ofList text)))

/-- Whether a label of a host name is well formed. -/
def isLabel (label : List Char) : Bool :=
  !label.isEmpty && label.length ≤ 63 && label.all fun c => c.isAlphanum || c = '-' || c = '_'

/-- The labels of a host name, which may end in a point. -/
def labelsOf (host : List Char) : List (List Char) :=
  let labels := Url.cutAll '.' host
  if labels.getLast? = some [] then labels.dropLast else labels

/-- What is wrong with the letters of a host. -/
def hostFault? (host : List Char) : Option Fault :=
  if host.isEmpty then some (.badValue "No hostname given")
  else if (labelsOf host).any fun l => l.isEmpty || 63 < l.length then some (.collaborator "UnicodeError" "")
  else none

/-- Whether a host is a name or an address. -/
def isHost (host : List Char) : Bool :=
  host.length ≤ 255 && ((labelsOf host).all isLabel || Url.isVersion4 host || Url.isVersion6 host)

/-- A text without its last character, if that is the given one and nothing follows it. -/
def without (mark : Char) (front after : List Char) : List Char :=
  if after.isEmpty then front else front ++ mark :: after

/-- The schemes whose paths may end in parameters. -/
def withParameters : List String := ["", "ftp", "hdl", "prospero", "http", "https", "shttp", "rtsp", "rtspu", "sip",
  "sips", "mms", "sftp", "tel"]

/-- A path without a semicolon in its last segment that nothing follows. -/
def dropEmptyParameters (scheme path : List Char) : List Char :=
  if withParameters.contains (String.ofList scheme) then
    let segment := Url.afterLast '/' path
    let (front, parameters) := Url.partition ';' segment
    path.take (path.length - segment.length) ++ without ';' front parameters
  else path

/-- What follows the authority, in one form. -/
def restOf (scheme rest : List Char) : List Char :=
  let (rest, fragment) := Url.partition '#' rest
  let (path, query) := Url.partition '?' rest
  let shown := without '#' (without '?' (dropEmptyParameters scheme path) query) fragment
  if shown.head? = some '/' then shown else '/' :: shown

def ofUrl (url : String) : Except Fault Target := do
  let parts ← Url.split url
  let host := Url.hostOf parts.authority
  let (_, rest) := Url.splitScheme (url.toList.filter fun c => !Url.isDropped c)
  let rest := if rest.take 2 = ['/', '/'] then rest.drop (parts.authority.length + 2) else rest
  if let some f := hostFault? host then throw f
  if url.toList.any fun c => 128 ≤ c.toNat then throw .unencodable
  let port ← portOf parts.scheme parts.authority
  if !isHost host then throw (.badValue "Invalid Host")
  return {
    scheme := String.ofList parts.scheme
    host := String.ofList host
    port
    rest := String.ofList (restOf parts.scheme rest) }

end Target
end Userscript.Proxy
