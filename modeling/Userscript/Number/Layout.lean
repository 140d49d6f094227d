import Userscript.Number.Arithmetic
import Userscript.Number.Shortest

/-!
# Userscript.Number.Layout

Numbers written with a given count of digits: with fixed places, with an exponent, or in whichever of the two
suits the size of the number.

The digits are those of the exact value, a half going to the even neighbour.
-/

namespace Userscript.Binary64

/-- The size of a finite number as a fraction. -/
def magnitude (x : Binary64) : Nat × Nat :=
  match x.shape with
  | .finite _ m e =>
    let (a, b) := ratio false m e
    (a.natAbs, b)
  | _ => (0, 1)

/-- Digits with a point before the last `places` of them. -/
def pointed (places digits : Nat) : String :=
  let cs := (toString digits).toList
  let cs := List.replicate (places + 1 - cs.length) '0' ++ cs
  let whole := String.ofList (cs.take (cs.length - places))
  if places = 0 then whole else whole ++ "." ++ String.ofList (cs.drop (cs.length - places))

/-- The size of a number with fixed places. -/
def fixed (places : Nat) (x : Binary64) : String :=
  let (a, b) := x.magnitude
  pointed places (roundDiv (a * Nat.pow 10 places) b)

/-- The greatest power of ten that is not greater than a fraction, looked for from `p` on downwards. -/
def topPower (a b : Nat) : Nat → Int → Int
  | 0, p => p
  | fuel + 1, p =>
    let (num, den) := if 0 ≤ p then (a, b * Nat.pow 10 p.toNat) else (a * Nat.pow 10 (-p).toNat, b)
    if den ≤ num then p else topPower a b fuel (p - 1)

/-- The first `count` digits of the size of a number and the power of ten of the first of them. -/
def leading (count : Nat) (x : Binary64) : Nat × Int :=
  let (a, b) := x.magnitude
  if a = 0 then (0, 0)
  else
    let guess : Int := ((a.log2 : Int) - (b.log2 : Int) + 2) * 30103 / 100000 + 2
    let p := topPower a b 12 guess
    let scale : Int := (count : Int) - 1 - p
    let n := if 0 ≤ scale then roundDiv (a * Nat.pow 10 scale.toNat) b
      else roundDiv a (b * Nat.pow 10 (-scale).toNat)
    if n = Nat.pow 10 count then (Nat.pow 10 (count - 1), p + 1) else (n, p)

/-- An exponent, of two digits at least. -/
def exponentText (p : Int) : String :=
  let ds := toString p.natAbs
  "e" ++ (if p < 0 then "-" else "+") ++ (if ds.length < 2 then "0" else "") ++ ds

/-- The size of a number with an exponent and fixed places. -/
def withExponent (places : Nat) (x : Binary64) : String :=
  let (n, p) := x.leading (places + 1)
  pointed places n ++ exponentText p

/-- Drops the zeros that end a fraction, and a point that ends the text then. -/
def withoutZeros (s : String) : String :=
  if s.toList.contains '.' then
    let cs := s.toList.reverse.dropWhile (· = '0')
    String.ofList (if cs.head? = some '.' then cs.drop 1 else cs).reverse
  else s

/-- The size of a number with so many digits: with an exponent if it is small or has more digits before the
point. `keep` keeps the zeros at the end. -/
def general (digits : Nat) (keep : Bool) (x : Binary64) : String :=
  let count := max 1 digits
  let (n, p) := x.leading count
  let strip := if keep then id else withoutZeros
  if -4 ≤ p && p < count then
    let places := ((count : Int) - 1 - p).toNat
    strip (pointed places n)
  else strip (pointed (count - 1) n) ++ exponentText p

end Userscript.Binary64
