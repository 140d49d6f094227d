import Userscript.Fault

/-!
# Userscript.Url.Bracketed

Addresses that a URL gives between brackets: version 6 addresses with an optional zone, and future
versions marked by a leading `v`.
-/

namespace Userscript.Url

def isHexDigit (c : Char) : Bool :=
  c.isDigit || ('a' ≤ c && c ≤ 'f') || ('A' ≤ c && c ≤ 'F')

/-- The characters cut at every occurrence of one. -/
def cutAll (sep : Char) (cs : List Char) : List (List Char) :=
  cs.foldr (fun c parts =>
    if c = sep then [] :: parts
    else match parts with
      | [] => [[c]]
      | p :: ps => (c :: p) :: ps) [[]]

/-- A decimal octet: up to three digits without a leading zero, at most 255. -/
def isOctet (cs : List Char) : Bool :=
  !cs.isEmpty && cs.all Char.isDigit && cs.length ≤ 3 &&
  (cs.length = 1 || cs.head? ≠ some '0') &&
  cs.foldl (fun n c => n * 10 + (c.toNat - 48)) 0 ≤ 255

/-- A version 4 address: four octets. -/
def isVersion4 (cs : List Char) : Bool :=
  let octets := cutAll '.' cs
  octets.length = 4 && octets.all isOctet

/-- Up to four hexadecimal digits. -/
def isGroup (cs : List Char) : Bool :=
  !cs.isEmpty && cs.all isHexDigit && cs.length ≤ 4

/-- The groups of a version 6 address, with a trailing version 4 address counted as two. -/
def groups6? (cs : List Char) : Option (List (List Char)) :=
  let parts := cutAll ':' cs
  match parts.reverse with
  | [] => none
  | last :: before =>
    if last.contains '.' then
      if isVersion4 last then some (before.reverse ++ [['0'], ['0']]) else none
    else some parts

/-- A version 6 address without its zone: eight groups, or fewer with one gap `::`. -/
def isGroups6 (cs : List Char) : Bool :=
  3 ≤ (cutAll ':' cs).length &&
  match groups6? cs with
  | none => false
  | some parts =>
    let size := parts.length
    let inner := (parts.drop 1).dropLast
    let gaps := inner.countP List.isEmpty
    if 9 < size then false
    else if gaps = 0 then size = 8 && parts.all isGroup
    else if gaps = 1 then
      let opening := parts.head? = some []
      let gap := 1 + (inner.takeWhile fun p => !p.isEmpty).length
      let high := parts.take gap
      let low := parts.drop (gap + 1)
      let high := if opening then high.drop 1 else high
      let closing := low.getLast? = some []
      let low := if closing then low.dropLast else low
      -- A leading or trailing colon has to be part of the gap.
      (!opening || high.isEmpty) && (!closing || low.isEmpty) &&
      high.length + low.length ≤ 7 && high.all isGroup && low.all isGroup
    else false

/-- A version 6 address, with an optional zone after a percent sign. -/
def isVersion6 (cs : List Char) : Bool :=
  let addr := cs.takeWhile (· ≠ '%')
  match cs.drop addr.length with
  | [] => isGroups6 addr
  | _ :: zone => !zone.isEmpty && !zone.contains '%' && isGroups6 addr

/-- The rest of an address of a future version: hexadecimal digits, a point and more. -/
def isFuture (cs : List Char) : Bool :=
  let digits := cs.takeWhile isHexDigit
  match cs.drop digits.length with
  | '.' :: rest => !digits.isEmpty && !rest.isEmpty && !rest.contains '\n'
  | _ => false

/-- What is wrong with an address between brackets. -/
def bracketedFault? (host : List Char) : Option Fault :=
  match host with
  | 'v' :: rest => if isFuture rest then none else some (.badValue "IPvFuture address is invalid")
  | _ =>
    if isVersion4 host then some (.badValue "An IPv4 address cannot be in brackets")
    else if isVersion6 host then none
    else some (.badValue (Text.quote (String.ofList host) ++
      " does not appear to be an IPv4 or IPv6 address"))

end Userscript.Url
