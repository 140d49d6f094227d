import Userscript.Net.Exchange

/-!
# Userscript.Net.Cookie

Cookies, and the jar that keeps them between requests.

A cookie belongs to a domain and a path. Those of the page belong to every domain; those that a response sets
belong to its host, or to the domain that they name. The jar keeps them by domain, path and name, in the order
in which these first came up.

* `Jar.put` keeps a cookie;
* `Jar.header?` is the header that goes with a request;
* `Jar.take` keeps the cookies that a response sets.
-/

namespace Userscript.Net

/-- A cookie. Without a value its name alone is sent. -/
structure Cookie where
  name : String
  value : Option String
  domain : String := ""
  path : String := "/"
  /-- Whether it goes with encrypted requests only. -/
  secure : Bool := false
  /-- When it ends, in seconds. -/
  expires : Option Int := none
deriving DecidableEq

namespace Cookie

def text (c : Cookie) : String :=
  match c.value with
  | some v => c.name ++ "=" ++ v
  | none => c.name

def endsIn (s ending : String) : Bool := ending.toList.isSuffixOf s.toList

/-- A domain with a leading point; the empty one stays empty. -/
def dotted (domain : String) : String :=
  if domain = "" || domain.startsWith "." then domain else "." ++ domain

/-- The host of an address as cookies know it. -/
def requestHost (a : Address) : String :=
  let host := Header.lowered ((if a.userinfo = "" then "" else a.userinfo ++ "@") ++ a.place)
  let digits := (host.toList.reverse.takeWhile Char.isDigit).length
  let front := host.toList.take (host.length - digits)
  if 0 < digits && front.getLast? = some ':' then String.ofList front.dropLast else host

/-- The domain of cookies that name none. -/
def requestDomain (a : Address) : String :=
  let host := requestHost a
  if host.toList.contains '.' then host else host ++ ".local"

/-- The path of an address as cookies know it. -/
def requestPath (a : Address) : String :=
  let safe (c : Char) : Bool := isUnreserved c || "%/;:@&=+$,!*'()".toList.contains c
  let path := String.ofList (percentEncode safe a.path.toList)
  if path.startsWith "/" then path else "/" ++ path

/-- The path of cookies that name none: up to the last slash. -/
def defaultPath (path : String) : String :=
  let front := (path.toList.reverse.dropWhile (· ≠ '/')).drop 1
  if front.isEmpty then "/" else String.ofList front.reverse

def covers (domain : String) (a : Address) : Bool := endsIn ("." ++ requestDomain a) (dotted domain)

def pathCovers (path request : String) : Bool :=
  request = path ||
  (request.startsWith path &&
    (endsIn path "/" || (request.toList.drop path.length).head? = some '/'))

/-- Whether a cookie goes with a request. -/
def goesWith (now : Int) (a : Address) (c : Cookie) : Bool :=
  (endsIn (dotted (requestHost a)) (dotted c.domain) || covers c.domain a) &&
  covers c.domain a && pathCovers c.path (requestPath a) &&
  (!c.secure || a.scheme = "https" || a.scheme = "wss") &&
  c.expires.all fun t => now < t

end Cookie

/-! ## Dates -/

def monthNames : List String :=
  ["jan", "feb", "mar", "apr", "may", "jun", "jul", "aug", "sep", "oct", "nov", "dec"]

/-- The days from the first of January 1970 to a date. -/
def daysTo (year month day : Int) : Int :=
  let y := if month ≤ 2 then year - 1 else year
  let m := if month ≤ 2 then month + 9 else month - 3
  365 * y + Int.fdiv y 4 - Int.fdiv y 100 + Int.fdiv y 400 + Int.fdiv (153 * m + 2) 5 + day - 1 - 719468

def number? (cs : List Char) : Option Int :=
  if !cs.isEmpty && cs.all Char.isDigit then some (Number.ofDigits (cs.map fun c => c.toNat - 48)) else none

/-- The seconds since 1970 of a date such as `Thu, 01 Jan 1970 00:00:00 GMT`. -/
def seconds? (s : String) : Option Int := do
  let parts := (s.toList.splitBy fun a b => a ≠ ' ' && a ≠ '-' && b ≠ ' ' && b ≠ '-').filter
    fun p => p ≠ [' '] && p ≠ ['-']
  let parts := if (parts.headD []).all Char.isDigit then parts else parts.drop 1
  match parts with
  | day :: month :: year :: clock :: _ =>
    let day ← number? day
    let month ← monthNames.findIdx? (· = Header.lowered (String.ofList month))
    let year ← number? year
    match ← (Url.cutAll ':' clock).mapM number? with
    | [h, m, s] => return daysTo year (month + 1) day * 86400 + h * 3600 + m * 60 + s
    | _ => none
  | _ => none

/-! ## What responses set -/

/-- The attributes of a cookie that count; a domain is empty if none is named. -/
structure CookieAttributes where
  domain : Option String := none
  path : Option String := none
  secure : Bool := false
  expires : Option Int := none
  maxAge : Option Int := none

/-- What comes of reading the attributes of a cookie. -/
inductive AttributesRead where
  | read (attributes : CookieAttributes)
  /-- The cookie is not kept. -/
  | refused
  /-- No cookie of the response is kept. -/
  | broken

def readAttributes (now : Int) (a : CookieAttributes) : List (String × Option String) → AttributesRead
  | [] => .read a
  | (name, value) :: rest =>
    match Header.lowered name, value with
    | "domain", none => .refused
    | "domain", some v => readAttributes now { a with domain := a.domain <|> some (Header.lowered v) } rest
    | "path", none => if a.path.isSome then readAttributes now a rest else .refused
    | "path", some v => readAttributes now { a with path := a.path <|> some v } rest
    | "secure", v => readAttributes now { a with secure := a.secure || v ≠ some "" } rest
    | "max-age", none => .broken
    | "max-age", some v =>
      match Number.readInt v with
      | .error _ => .refused
      | .ok n => readAttributes now { a with maxAge := some (now + n) } rest
    | "expires", some v =>
      readAttributes now { a with expires := a.expires <|> seconds? (unquoted v) } rest
    | "version", none => .refused
    | _, _ => readAttributes now a rest

/-- A name and what follows the sign behind it, if there is one. -/
def nameAndValue (piece : List Char) : String × Option String :=
  let (front, rest) := Url.partition '=' piece
  (Text.trim (String.ofList front),
    if piece.contains '=' then some (Text.trim (String.ofList rest)) else none)

/-- A cookie that a response sets, and whether it takes one back. `none` if it is not kept. -/
def setCookie? (now : Int) (a : Address) (header : String) : Except Unit (Option (Cookie × Bool)) :=
  match (Url.cutAll ';' header.toList).map nameAndValue with
  | [] => .ok none
  | (name, value) :: attributes =>
    if name = "" then .ok none
    else match readAttributes now {} (attributes.filter (·.1 ≠ "")) with
      | .broken => .error ()
      | .refused => .ok none
      | .read x =>
        let path := (x.path.filter (· ≠ "")).getD (Cookie.defaultPath (Cookie.requestPath a))
        let domain := match x.domain with
          | some d => if d.startsWith "." then d else "." ++ d
          | none => Cookie.requestDomain a
        let expires := x.maxAge <|> x.expires
        let cookie : Cookie := { name, value, domain, path, secure := x.secure, expires }
        let host := Cookie.requestDomain a
        let foreign := x.domain.isSome &&
          ((!(domain.toList.drop 1).contains '.' && domain ≠ ".local") ||
            !(Cookie.endsIn host domain || Cookie.endsIn ("." ++ host) domain))
        if expires.any (· ≤ now) then .ok (some (cookie, true))
        else if foreign then .ok none
        else .ok (some (cookie, false))

/-! ## The jar -/

/-- Cookies by domain, path and name. -/
structure Jar where
  cookies : List (String × List (String × List Cookie)) := []

namespace Jar

/-- Changes the entry of a key, or makes one at the end. -/
def alter {α : Type} (key : String) (start : α) (f : α → α) : List (String × α) → List (String × α)
  | [] => [(key, f start)]
  | (k, a) :: rest => if k = key then (k, f a) :: rest else (k, a) :: alter key start f rest

/-- Puts a cookie to those of its path, at the place of one with its name. -/
def putAmong (c : Cookie) : List Cookie → List Cookie
  | [] => [c]
  | d :: rest => if d.name = c.name then c :: rest else d :: putAmong c rest

def put (c : Cookie) (j : Jar) : Jar :=
  ⟨alter c.domain [] (alter c.path [] (putAmong c)) j.cookies⟩

/-- Drops the cookie that has the domain, the path and the name of another. -/
def drop (c : Cookie) (j : Jar) : Jar :=
  ⟨j.cookies.map fun (domain, paths) =>
    if domain ≠ c.domain then (domain, paths)
    else (domain, paths.map fun (path, cs) =>
      if path ≠ c.path then (path, cs) else (path, cs.filter (·.name ≠ c.name)))⟩

/-- All cookies, in the order of the jar. -/
def all (j : Jar) : List Cookie := j.cookies.flatMap fun (_, paths) => paths.flatMap (·.2)

def ofPage (cookies : List (String × Option String)) : Jar :=
  cookies.foldl (fun j (name, value) => j.put { name, value }) {}

/-- The header that goes with a request: the cookies with the longest paths first. -/
def header? (now : Int) (a : Address) (j : Jar) : Option String :=
  let sent := (j.all.filter (·.goesWith now a)).mergeSort fun c d => d.path.length ≤ c.path.length
  if sent.isEmpty then none else some (String.intercalate "; " (sent.map Cookie.text))

/-- Keeps the cookies that a response to a request sets. -/
def take (now : Int) (a : Address) (headers : Headers) (j : Jar) : Jar :=
  match ((headers.filter (·.1 = "set-cookie")).mapM fun h => setCookie? now a h.2) with
  | .error _ => j
  | .ok found => found.reduceOption.foldl (fun j (c, back) => if back then j.drop c else j.put c) j

end Jar
end Userscript.Net
