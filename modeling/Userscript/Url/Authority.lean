import Userscript.Text.Case
import Userscript.Text.Compatibility
import Userscript.Text.Pieces
import Userscript.Url.Bracketed

/-!
# Userscript.Url.Authority

The scheme and the authority of a URL, its host and its origin.

Tabs and line ends are dropped wherever they stand. A scheme is a letter followed by letters,
digits, `+`, `-` and `.` up to the first colon. The authority follows `//` and ends before the first
`/`, `?` or `#`. The host is what remains of it without user information (up to the last `@`) and
port; an address may stand in brackets.

* `Url.split` cuts a URL, or tells why it cannot;
* `Url.host?` is the host name in lower case;
* `Url.origin` is the text by which pages share storage;
* `Url.siteHost` is the name under which scripts are paused, without a leading `www.`.
-/

namespace Userscript.Url

/-- The scheme in lower case and the authority as written; both may be empty. -/
structure Parts where
  scheme : List Char
  authority : List Char
deriving DecidableEq

/-- A character that is dropped wherever it stands. -/
def isDropped (c : Char) : Bool := c = '\t' || c = '\r' || c = '\n'

def isSchemeChar (c : Char) : Bool :=
  (c.toNat < 128 && c.isAlphanum) || c = '+' || c = '-' || c = '.'

/-- Scheme and rest; the scheme is empty if the text does not start with one. -/
def splitScheme (cs : List Char) : List Char × List Char :=
  let front := cs.takeWhile (· ≠ ':')
  match cs.drop front.length with
  | _ :: rest =>
    if (front.head?.any fun c => c.toNat < 128 && c.isAlpha) && front.all isSchemeChar then
      (front.map Char.toLower, rest)
    else ([], cs)
  | [] => ([], cs)

def endsAuthority (c : Char) : Bool := c = '/' || c = '?' || c = '#'

/-- The authority of what follows the scheme. -/
def takeAuthority : List Char → List Char
  | '/' :: '/' :: rest => rest.takeWhile fun c => !endsAuthority c
  | _ => []

/-- What follows the last occurrence of a character; all if there is none. -/
def afterLast (sep : Char) (cs : List Char) : List Char :=
  (cs.reverse.takeWhile (· ≠ sep)).reverse

/-- The characters before the first occurrence of one, and those after it. -/
def partition (sep : Char) (cs : List Char) : List Char × List Char :=
  let front := cs.takeWhile (· ≠ sep)
  (front, cs.drop (front.length + 1))

/-- What is wrong with the brackets of an authority. -/
def bracketFault? (authority : List Char) : Option Fault :=
  let opened := authority.contains '['
  let closed := authority.contains ']'
  if opened != closed then some (.badValue "Invalid IPv6 URL")
  else if !opened then none
  else
    let place := afterLast '@' authority
    if place.contains '[' then
      let (before, bracketed) := partition '[' place
      let (host, port) := partition ']' bracketed
      if !before.isEmpty || !(port.isEmpty || port.head? = some ':') then
        some (.badValue "Invalid IPv6 URL")
      else bracketedFault? host
    else bracketedFault? (partition ':' place).1

/-- What is wrong with the letters of an authority: in compatibility form it would hold a delimiter
that it does not hold as written. -/
def lettersFault? (authority : List Char) : Option Fault :=
  if authority.all (·.toNat < 128) then none
  else
    let bare := String.ofList
      (authority.filter fun c => !(c = '@' || c = ':' || c = '#' || c = '?'))
    let form := Text.compatible bare
    if form = bare then none
    else if form.toList.any fun c => endsAuthority c || c = '@' || c = ':' then
      some (.badValue ("netloc '" ++ String.ofList authority ++
        "' contains invalid characters under NFKC normalization"))
    else none

/-- Cuts a URL into scheme and authority. -/
def split (url : String) : Except Fault Parts :=
  let (scheme, rest) := splitScheme (url.toList.filter fun c => !isDropped c)
  let authority := takeAuthority rest
  match bracketFault? authority <|> lettersFault? authority with
  | some fault => .error fault
  | none => .ok ⟨scheme, authority⟩

/-- The host of an authority in lower case, save for a zone after a percent sign. -/
def hostOf (authority : List Char) : List Char :=
  let place := afterLast '@' authority
  let host :=
    if place.contains '[' then (partition ']' (partition '[' place).2).1
    else (partition ':' place).1
  let name := host.takeWhile (· ≠ '%')
  (Text.lower (String.ofList name)).toList ++ host.drop name.length

/-- The origin of a page: scheme and authority, in lower case. -/
def origin (url : String) : Except Fault String :=
  (split url).map fun parts =>
    Text.lower (String.ofList parts.scheme ++ "://" ++ String.ofList parts.authority)

/-- A text without a leading `www.`. -/
def dropSite (host : String) : String :=
  match host.toList with
  | 'w' :: 'w' :: 'w' :: '.' :: rest => String.ofList rest
  | _ => host

/-- The name under which scripts are paused on the pages of a URL; empty if it has none. -/
def siteHost (url : String) : String :=
  match split url with
  | .error _ => ""
  | .ok parts => dropSite (Text.lower (String.ofList (hostOf parts.authority)))

/-- Whether a URL is that of a web page. -/
def isWeb (url : String) : Bool :=
  let low := Text.lower url
  low.startsWith "http://" || low.startsWith "https://"

/-- The name under which scripts are paused, of a host or a URL. -/
def bareHost (text : String) : String :=
  siteHost (if Text.holds "://" text then text else "http://" ++ text)

end Userscript.Url
