import Userscript.Net.Percent
import Userscript.Text.Case
import Userscript.Text.Compatibility
import Userscript.Text.Identifier

/-!
# Userscript.Net.HostName

Host names beyond ASCII, label by label in their ASCII form: `xn--` and the label in the encoding that
writes its ASCII characters first, and then where each other character goes.
-/

namespace Userscript.Net

/-- How fast the thresholds of digits follow the places of characters. -/
def adaptBias : Nat → Nat → Nat → Nat
  | 0, k, _ => k
  | fuel + 1, k, delta => if 455 < delta then adaptBias fuel (k + 36) (delta / 35) else k + 36 * delta / (delta + 38)

/-- The bias after a character was placed. -/
def nextBias (delta points : Nat) (first : Bool) : Nat :=
  let delta := if first then delta / 700 else delta / 2
  let delta := delta + delta / points
  adaptBias delta 0 delta

def digit36 (n : Nat) : Char := Char.ofNat (if n < 26 then 97 + n else 22 + n)

/-- A number in digits of growing weight. -/
def weighted (bias : Nat) : Nat → Nat → Nat → List Char
  | 0, _, _ => []
  | fuel + 1, k, q =>
    let t := if k ≤ bias then 1 else if bias + 26 ≤ k then 26 else k - bias
    if q < t then [digit36 q]
    else digit36 (t + (q - t) % (36 - t)) :: weighted bias fuel (k + 36) ((q - t) / (36 - t))

/-- What is kept while characters are placed: the least code point that is still to come, the steps since the last
one, the bias, and how many characters stand. -/
structure Placing where
  next : Nat
  delta : Nat := 0
  bias : Nat := 72
  placed : Nat
  first : Bool := true
  out : List Char := []

/-- Places all characters of one code point. -/
def placeAll (m : Nat) (s : Placing) (c : Char) : Placing :=
  if c.toNat < m then { s with delta := s.delta + 1 }
  else if c.toNat = m then
    { s with
      out := s.out ++ weighted s.bias (s.delta + 1) 36 s.delta
      bias := nextBias s.delta (s.placed + 1) s.first
      delta := 0, placed := s.placed + 1, first := false }
  else s

/-- Places the characters of each code point in turn. -/
def placeEach (label : List Char) : List Nat → Placing → Placing
  | [], s => s
  | m :: rest, s =>
    let s := { s with delta := s.delta + (m - s.next) * (s.placed + 1) }
    let s := label.foldl (placeAll m) s
    placeEach label rest { s with delta := s.delta + 1, next := m + 1 }

/-- A label beyond ASCII in ASCII form, without its mark. -/
def labelCode (label : List Char) : List Char :=
  let basic := label.filter (·.toNat < 128)
  let others := ((label.filter fun c => 128 ≤ c.toNat).map Char.toNat).eraseDups.mergeSort
  let start := if basic.isEmpty then [] else basic ++ ['-']
  start ++ (placeEach label others { next := 128, placed := basic.length }).out

/-- A character that labels may hold: in ASCII a small letter, a digit or a hyphen, else a letter, mark or digit
that is its own compatible form in small letters. -/
def isLabelChar (c : Char) : Bool :=
  if c.toNat < 128 then c.isLower || c.isDigit || c = '-'
  else Text.isIdentifierPart c && (Text.compatible (String.singleton c) = String.singleton c) &&
    Text.lower (String.singleton c) = String.singleton c

def isLabel (label : List Char) : Bool :=
  !label.isEmpty && label.all isLabelChar && label.head? ≠ some '-' && label.getLast? ≠ some '-' &&
  (label.drop 2).take 2 ≠ ['-', '-']

def asciiLabel? (label : List Char) : Option (List Char) :=
  if !isLabel label then none
  else
    let form := if label.all (·.toNat < 128) then label else "xn--".toList ++ labelCode label
    if form.length ≤ 63 then some form else none

/-- The ASCII form of a host name beyond ASCII; a point at its end stays. -/
def asciiHost? (host : List Char) : Option (List Char) :=
  let dots := host.map fun c => if c = '。' || c = '．' || c = '｡' then '.' else c
  let labels := Url.cutAll '.' dots
  let (labels, ending) := if labels.getLast? = some [] then (labels.dropLast, ['.']) else (labels, [])
  match labels.mapM asciiLabel? with
  | none => none
  | some forms =>
    let name := List.intercalate ['.'] forms ++ ending
    if name.length ≤ 253 + ending.length then some name else none

end Userscript.Net
