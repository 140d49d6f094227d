import Userscript.Number.Binary64

/-!
# Userscript.Number.Arithmetic

Arithmetic of binary64 numbers: each result is the number nearest to the exact one, computed with fractions
of integers.

`rem` is the remainder of the sign of the divisor, and `floorDiv` the quotient that goes with it;
`roundTo` drops decimal places.
-/

namespace Userscript.Binary64

/-- The number nearest to a fraction that is not zero. -/
def ofFraction (num : Int) (den : Nat) : Binary64 := ofRatio (num < 0) num.natAbs den

def add (x y : Binary64) : Binary64 :=
  match x.shape, y.shape with
  | .nan, _ | _, .nan => nan
  | .infinite s, .infinite t => if s = t then x else nan
  | .infinite _, _ => x
  | _, .infinite _ => y
  | .finite s m e, .finite t n f =>
    let (a, b) := ratio s m e
    let (c, d) := ratio t n f
    let num := a * d + c * b
    if num = 0 then zero (s && t) else ofFraction num (b * d)

def sub (x y : Binary64) : Binary64 := x.add y.neg

/-- Whether the sign is that of negative numbers. -/
def isNegative (x : Binary64) : Bool := x.bits.toNat / Nat.pow 2 63 == 1

def mul (x y : Binary64) : Binary64 :=
  let sign := x.isNegative != y.isNegative
  match x.shape, y.shape with
  | .nan, _ | _, .nan => nan
  | .infinite _, .finite _ 0 _ | .finite _ 0 _, .infinite _ => nan
  | .infinite _, _ | _, .infinite _ => infinity sign
  | .finite _ m e, .finite _ n f =>
    let (a, b) := ratio false m e
    let (c, d) := ratio false n f
    ofRatio sign (a.natAbs * c.natAbs) (b * d)

/-- The quotient, of which the divisor is not zero. -/
def div (x y : Binary64) : Binary64 :=
  let sign := x.isNegative != y.isNegative
  match x.shape, y.shape with
  | .nan, _ | _, .nan => nan
  | .infinite _, .infinite _ => nan
  | .infinite _, _ => infinity sign
  | _, .infinite _ => zero sign
  | .finite _ m e, .finite _ n f =>
    let (a, b) := ratio false m e
    let (c, d) := ratio false n f
    if c = 0 then (if a = 0 then nan else infinity sign)
    else ofRatio sign (a.natAbs * d) (b * c.natAbs)

/-- What is left of `x` when whole multiples of `y` are taken off, with the sign of `x`. -/
def leftOver (x y : Binary64) : Binary64 :=
  match x.shape, y.shape with
  | .nan, _ | _, .nan | .infinite _, _ => nan
  | _, .infinite _ => x
  | .finite s m e, .finite _ n f =>
    let (a, b) := ratio false m e
    let (c, d) := ratio false n f
    let num := a.natAbs * d
    let unit := c.natAbs * b
    if unit = 0 then nan else ofRatio s (num % unit) (b * d)

/-- The remainder, which has the sign of the divisor. -/
def rem (x y : Binary64) : Binary64 :=
  let r := leftOver x y
  if r.isZero then zero y.isNegative
  else if r.isNaN then r
  else if y.isNegative != r.isNegative then r.add y
  else r

/-- The greatest whole number that is not greater. -/
def floor (x : Binary64) : Binary64 :=
  match x.shape with
  | .finite s m e =>
    let (a, b) := ratio s m e
    let n := Int.fdiv a b
    if n = 0 then zero s else ofFraction n 1
  | _ => x

def one : Binary64 := ofRatio false 1 1

/-- The whole quotient that goes with the remainder. -/
def floorDiv (x y : Binary64) : Binary64 :=
  let r := leftOver x y
  let q := (x.sub r).div y
  let q := if !r.isZero && !r.isNaN && y.isNegative != r.isNegative then q.sub one else q
  if q.isZero then zero (x.div y).isNegative
  else
    let whole := q.floor
    if (q.sub whole).compare? (ofRatio false 1 2) = some .gt then whole.add one else whole

def pow (x y : Binary64) : Binary64 := ofFloat (x.toFloat.pow y.toFloat)

/-- The nearest integer, a half going to the even one; none for what is not finite. -/
def round? (x : Binary64) : Option Int :=
  match x.shape with
  | .finite s m e =>
    let (a, b) := ratio false m e
    let n := roundDiv a.natAbs b
    some (if s then -(n : Int) else n)
  | _ => none

/-- The number with so many decimal places; with fewer than none, whole tens and more are dropped. -/
def roundTo (x : Binary64) (places : Int) : Binary64 :=
  match x.shape with
  | .finite s m e =>
    if 400 < places then x
    else if places < -400 then zero s
    else
      let (a, b) := ratio false m e
      if 0 ≤ places then
        ofRatio s (roundDiv (a.natAbs * Nat.pow 10 places.toNat) b) (Nat.pow 10 places.toNat)
      else ofRatio s (roundDiv a.natAbs (b * Nat.pow 10 (-places).toNat) * Nat.pow 10 (-places).toNat) 1
  | _ => x

end Userscript.Binary64
