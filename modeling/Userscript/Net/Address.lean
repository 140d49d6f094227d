import Userscript.Json.Value
import Userscript.Net.HostName
import Userscript.Number.Numeral
import Userscript.Text.Quoted
import Userscript.Url.Authority

/-!
# Userscript.Net.Address

The addresses of requests: read with care, written in one form.

Scheme and host are in small letters, a port that the scheme implies is left out, `.` and `..` are resolved in
the path, and what may not stand for itself is in percent encoding.

* `Address.ofText` reads an address, or tells what is wrong with it;
* `Address.text` writes it;
* `Address.join` is the address that a reference stands for on a page of another address.
-/

namespace Userscript.Net

/-- The address of a request. Without a scheme or a host it is relative. -/
structure Address where
  scheme : String := ""
  userinfo : String := ""
  host : String := ""
  port : Option Int := none
  path : String := ""
  query : Option String := none
  fragment : Option String := none
deriving DecidableEq, Repr

namespace Address

/-! ## Parts -/

/-- Characters up to one that ends them, and the rest from there on. -/
def upTo (ends : Char → Bool) (cs : List Char) : List Char × List Char :=
  (cs.takeWhile fun c => !ends c, cs.dropWhile fun c => !ends c)

/-- Scheme and rest; the scheme may be empty even if a colon follows it. -/
def takeScheme (cs : List Char) : List Char × List Char :=
  let (front, rest) := upTo (· = ':') cs
  match front, rest with
  | [], _ :: rest => ([], rest)
  | c :: _, _ :: rest => if c.isAlpha && front.all Url.isSchemeChar then (front, rest) else ([], cs)
  | _, [] => ([], cs)

def takeAuthority : List Char → List Char × List Char
  | '/' :: '/' :: cs => upTo Url.endsAuthority cs
  | cs => ([], cs)

/-- A part behind a mark, if the mark is there, and the rest. -/
def takeMarked (mark : Char) (ends : Char → Bool) : List Char → Option (List Char) × List Char
  | c :: cs =>
    if c = mark then
      let (part, rest) := upTo ends cs
      (some part, rest)
    else (none, c :: cs)
  | [] => (none, [])

/-- User information and the rest of an authority. -/
def takeUserinfo (authority : List Char) : List Char × List Char :=
  match upTo (· = '@') authority with
  | (front, _ :: rest) => (front, rest)
  | (_, []) => ([], authority)

/-- Host and the rest of an authority; brackets reach up to the last one that closes. -/
def takeHost (cs : List Char) : List Char × List Char :=
  let plain := upTo (fun c => c = ':' || c = '@') cs
  match cs with
  | '[' :: _ =>
    let rest := (cs.reverse.takeWhile (· ≠ ']')).reverse
    if rest.length < cs.length then (cs.take (cs.length - rest.length), rest) else plain
  | _ => plain

def portText : List Char → List Char
  | ':' :: cs => cs
  | cs => cs

/-! ## Hosts and ports -/

/-- Whether a text looks like four numbers: digits with any `n` characters between them. -/
def looksNumeric : Nat → List Char → Bool
  | _, [] => false
  | n, c :: rest =>
    c.isDigit &&
    ((n = 0 && rest.isEmpty) || looksNumeric n rest ||
      match n, rest with
      | n + 1, _ :: more => looksNumeric n more
      | _, _ => false)

/-- A character that stands for itself in a host. -/
def isHostChar (c : Char) : Bool :=
  isUnreserved c || "!$&'()*+,;=\"`\x7b\x7d%|\\".toList.contains c

/-- The host in one form, or what is wrong with it. -/
def hostOf (cs : List Char) : Except String (List Char) :=
  let shown := Text.quote (String.ofList cs)
  if cs.isEmpty then .ok []
  else if looksNumeric 3 cs then
    if Url.isVersion4 cs then .ok cs else .error ("Invalid IPv4 address: " ++ shown)
  else if cs.head? = some '[' && cs.getLast? = some ']' then
    let inner := (cs.drop 1).dropLast
    if Url.isVersion6 inner then .ok inner else .error ("Invalid IPv6 address: " ++ shown)
  else if cs.all (·.toNat < 128) then .ok (percentEncode isHostChar (cs.map Char.toLower))
  else
    match asciiHost? (Text.lower (String.ofList cs)).toList with
    | some host => .ok host
    | none => .error ("Invalid IDNA hostname: " ++ shown)

def impliedPort (scheme : String) : Option Int :=
  (Fields.get? scheme [("ftp", 21), ("http", 80), ("https", 443), ("ws", 80), ("wss", 443)])

/-- The port of a text, if there is one that the scheme does not imply. -/
def portOf (scheme : String) (text : List Char) : Except String (Option Int) :=
  if text.isEmpty then .ok none
  else
    let text := String.ofList text
    match Number.readInt text with
    | .error _ => .error ("Invalid port: " ++ Text.quote text)
    | .ok n => .ok (if impliedPort scheme = some n then none else some n)

/-! ## Paths -/

/-- The segments of a path without `.` and `..`, which takes back the segment before it; `out` is what was
kept so far, last first. -/
def resolve (out : List (List Char)) : List (List Char) → List (List Char)
  | [] => out.reverse
  | ['.'] :: rest => resolve out rest
  | ['.', '.'] :: rest => resolve (if out = [[]] then out else out.drop 1) rest
  | s :: rest => resolve (s :: out) rest

def resolved (path : List Char) : List Char :=
  List.intercalate ['/'] (resolve [] (Url.cutAll '/' path))

def pathProblem? (hasScheme hasAuthority : Bool) (path : List Char) : Option String :=
  if hasAuthority && !path.isEmpty && path.head? ≠ some '/' then
    some "For absolute URLs, path must be empty or begin with '/'"
  else if hasScheme || hasAuthority then none
  else if path.take 2 = ['/', '/'] then some "Relative URLs cannot have a path starting with '//'"
  else if path.head? = some ':' then some "Relative URLs cannot have a path starting with ':'"
  else none

/-- A character that stands for itself in a path, a query, a fragment and user information, in that
order. -/
def isPathChar (c : Char) : Bool := isVisible c && !" \"#<>?`\x7b\x7d".toList.contains c

@[inherit_doc isPathChar]
def isQueryChar (c : Char) : Bool := isVisible c && !" \"#<>".toList.contains c

@[inherit_doc isPathChar]
def isFragmentChar (c : Char) : Bool := isVisible c && !" \"<>`".toList.contains c

@[inherit_doc isPathChar]
def isUserChar (c : Char) : Bool := isPathChar c && !"/;=@[\\]^|".toList.contains c

/-! ## Reading and writing -/

def longest : Nat := 65536

/-- What is wrong with the characters of an address. -/
def characterProblem? (cs : List Char) : Option String :=
  let isControl (c : Char) : Bool := c.toNat < 0x20 || c.toNat = 0x7F
  (cs.find? isControl).map fun c =>
    "Invalid non-printable ASCII character in URL, " ++ Text.quote (String.singleton c) ++ " at position " ++
      toString (cs.takeWhile fun d => !isControl d).length ++ "."

/-- An address from its parts as written, or what is wrong with them. -/
def ofParts (scheme authority path : List Char) (query fragment : Option (List Char)) :
    Except String Address := do
  let (userinfo, place) := takeUserinfo authority
  let (host, port) := takeHost place
  let userinfo := percentEncode isUserChar userinfo
  let host ← hostOf host
  let port ← portOf (String.ofList scheme) (portText port)
  let hasScheme := !scheme.isEmpty
  let hasAuthority := !userinfo.isEmpty || !host.isEmpty || port.isSome
  if let some problem := pathProblem? hasScheme hasAuthority path then throw problem
  let path := if hasScheme || hasAuthority then resolved path else path
  let encoded (safe : Char → Bool) (cs : List Char) : String := String.ofList (percentEncode safe cs)
  return {
    scheme := String.ofList (scheme.map Char.toLower)
    userinfo := String.ofList userinfo
    host := String.ofList host
    port
    path := encoded isPathChar path
    query := query.map (encoded isQueryChar)
    fragment := fragment.map (encoded isFragmentChar) }

/-- The parts of an address as written: scheme, authority, path, query and fragment. -/
structure Written where
  scheme : List Char
  authority : List Char
  path : List Char
  query : Option (List Char)
  fragment : Option (List Char)

def cut (cs : List Char) : Written :=
  let (scheme, cs) := takeScheme cs
  let (authority, cs) := takeAuthority cs
  let (path, cs) := upTo (fun c => c = '?' || c = '#') cs
  let (query, cs) := takeMarked '?' (· = '#') cs
  let (fragment, _) := takeMarked '#' (fun _ => false) cs
  ⟨scheme, authority, path, query, fragment⟩

/-- Reads an address, or tells what is wrong with it. -/
def ofText (s : String) : Except String Address :=
  let cs := s.toList
  if longest < cs.length then .error "URL too long"
  else match characterProblem? cs with
    | some problem => .error problem
    | none =>
      let w := cut cs
      ofParts w.scheme w.authority w.path w.query w.fragment

/-- Host and port, as requests name them. -/
def place (a : Address) : String :=
  (if a.host.toList.contains ':' then "[" ++ a.host ++ "]" else a.host) ++
    match a.port with
    | some n => ":" ++ toString n
    | none => ""

def authority (a : Address) : String :=
  (if a.userinfo = "" then "" else a.userinfo ++ "@") ++ a.place

/-- The part of an address behind its authority. -/
def tail (a : Address) : String :=
  let marked (mark : String) (part : Option String) : String := (part.map (mark ++ ·)).getD ""
  a.path ++ marked "?" a.query ++ marked "#" a.fragment

def text (a : Address) : String :=
  (if a.scheme = "" then "" else a.scheme ++ ":") ++
    (if a.authority = "" then "" else "//" ++ a.authority) ++ a.tail

/-- Whether an address names a place by itself. -/
def isAbsolute (a : Address) : Bool := a.scheme ≠ "" && a.host ≠ ""

/-- The path and query of an address as requests name them. -/
def target (a : Address) : String :=
  (if a.path = "" then "/" else a.path) ++ ((a.query.map ("?" ++ ·)).getD "")

/-- The port of an address, if only by its scheme. -/
def effectivePort (a : Address) : Option Int :=
  a.port <|> Fields.get? a.scheme [("http", 80), ("https", 443)]

/-! ## References -/

/-- The segments that a relative path leads to from the path of a page. -/
def mergedSegments (base path : List Char) : List (List Char) :=
  if path.head? = some '/' then Url.cutAll '/' path
  else
    let baseParts := Url.cutAll '/' base
    let baseParts := if baseParts.getLast? = some [] then baseParts else baseParts.dropLast
    let parts := baseParts ++ Url.cutAll '/' path
    parts.take 1 ++ ((parts.drop 1).dropLast.filter fun s => !s.isEmpty) ++
      (parts.drop 1).getLast?.toList

/-- The path that a relative path leads to from the path of a page. -/
def mergedPath (base path : List Char) : List Char :=
  let segments := mergedSegments base path
  let kept := segments.foldl (fun out s =>
    if s = ['.', '.'] then out.drop 1 else if s = ['.'] then out else s :: out) []
  let ending := segments.getLast? = some ['.'] || segments.getLast? = some ['.', '.']
  let joined := List.intercalate ['/'] ((if ending then [] :: kept else kept).reverse)
  if joined.isEmpty then ['/'] else joined

/-- The address that a reference stands for on a page. -/
def join (base reference : Address) : Except String Address :=
  if reference.text = "" then .ok base
  else if reference.scheme ≠ "" && reference.scheme ≠ base.scheme then .ok reference
  else
    let given (part : Option String) : Option (List Char) :=
      (part.filter (· ≠ "")).map String.toList
    let scheme := base.scheme.toList
    if reference.authority ≠ "" then
      ofParts scheme reference.authority.toList reference.path.toList (given reference.query)
        (given reference.fragment)
    else
      let (path, query) :=
        if reference.path = "" then (base.path.toList, given reference.query <|> given base.query)
        else (mergedPath base.path.toList reference.path.toList, given reference.query)
      ofParts scheme base.authority.toList path query (given reference.fragment)

end Address
end Userscript.Net
