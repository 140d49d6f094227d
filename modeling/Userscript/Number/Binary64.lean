/-!
# Userscript.Number.Binary64

Numbers of the binary64 format, held as their bits so that they can be compared, stored and
reasoned about as data.

* `shape` reads the bits as a sign, a significand and a power of two;
* `ofRatio` is the format's number nearest to a quotient of naturals, a tie going to the even
  significand;
* `ofDecimal` is that for a decimal numeral;
* `compare?` orders exactly, and `trunc?` drops the fraction.
-/

namespace Userscript

structure Binary64 where
  bits : UInt64
deriving DecidableEq, Inhabited

namespace Binary64

/-- What the bits stand for. A finite number is `mantissa * 2 ^ exponent`, with its sign apart so
that zero has one too. -/
inductive Shape where
  | nan
  | infinite (negative : Bool)
  | finite (negative : Bool) (mantissa : Nat) (exponent : Int)
deriving DecidableEq

def shape (x : Binary64) : Shape :=
  let n := x.bits.toNat
  let negative := n / Nat.pow 2 63 == 1
  let biased : Nat := n / Nat.pow 2 52 % Nat.pow 2 11
  let fraction : Nat := n % Nat.pow 2 52
  if biased = 2047 then
    if fraction = 0 then .infinite negative else .nan
  else if biased = 0 then .finite negative fraction (-1074)
  else .finite negative (fraction + Nat.pow 2 52) ((biased : Int) - 1075)

/-- Puts sign, biased exponent and fraction together. -/
def pack (negative : Bool) (biased fraction : Nat) : Binary64 :=
  ⟨UInt64.ofNat ((if negative then Nat.pow 2 63 else 0) + biased * Nat.pow 2 52 + fraction)⟩

def infinity (negative : Bool) : Binary64 := pack negative 2047 0

def nan : Binary64 := pack false 2047 (Nat.pow 2 51)

def zero (negative : Bool) : Binary64 := pack negative 0 0

/-- The quotient of two naturals rounded to the nearest natural, a half going to the even one. -/
def roundDiv (num den : Nat) : Nat :=
  let q := num / den
  let r := num % den
  if 2 * r < den then q
  else if den < 2 * r then q + 1
  else if q % 2 = 0 then q else q + 1

/-- `num / den / 2 ^ e` as a quotient of naturals. -/
def scaled (num den : Nat) (e : Int) : Nat × Nat :=
  if 0 ≤ e then (num, den * Nat.pow 2 e.toNat) else (num * Nat.pow 2 (-e).toNat, den)

/-- The number nearest to `num / den` (with `den` positive), a tie going to the even significand and
what lies beyond the largest finite number to infinity. -/
def ofRatio (negative : Bool) (num den : Nat) : Binary64 :=
  if num = 0 then zero negative
  else
    let e₀ : Int := (num.log2 : Int) - (den.log2 : Int) - 52
    let (n₀, d₀) := scaled num den e₀
    let e := max (if n₀ / d₀ < Nat.pow 2 52 then e₀ - 1 else e₀) (-1074)
    let (n₁, d₁) := scaled num den e
    let m₁ := roundDiv n₁ d₁
    let (m, e) := if m₁ = Nat.pow 2 53 then (Nat.pow 2 52, e + 1) else (m₁, e)
    if m < Nat.pow 2 52 then pack negative 0 m
    else if 971 < e then infinity negative
    else pack negative (e + 1075).toNat (m - Nat.pow 2 52)

/-- How many decimal digits a natural has. -/
def decimalLength (n : Nat) : Nat := (Nat.toDigits 10 n).length

/-- The number nearest to `digits * 10 ^ exponent`. -/
def ofDecimal (negative : Bool) (digits : Nat) (exponent : Int) : Binary64 :=
  if digits = 0 then zero negative
  else
    let top := (decimalLength digits : Int) + exponent
    if 400 < top then infinity negative
    else if top < -400 then zero negative
    else if 0 ≤ exponent then ofRatio negative (digits * Nat.pow 10 exponent.toNat) 1
    else ofRatio negative digits (Nat.pow 10 (-exponent).toNat)

/-- The number nearest to an integer; integers beyond the format have none. -/
def ofInt? (n : Int) : Option Binary64 :=
  let x := ofRatio (n < 0) n.natAbs 1
  if x = infinity (n < 0) then none else some x

/-- Whether the number is neither infinite nor no number. -/
def isFinite (x : Binary64) : Bool :=
  match x.shape with
  | .finite .. => true
  | _ => false

def isNaN (x : Binary64) : Bool := x.shape == .nan

/-- Whether the number is a zero of either sign. -/
def isZero (x : Binary64) : Bool :=
  match x.shape with
  | .finite _ 0 _ => true
  | _ => false

/-- `significand * 2 ^ exponent` as an integer over a power of two. -/
def ratio (negative : Bool) (m : Nat) (e : Int) : Int × Nat :=
  let sign : Int := if negative then -1 else 1
  if 0 ≤ e then (sign * (m * Nat.pow 2 e.toNat : Nat), 1) else (sign * m, Nat.pow 2 (-e).toNat)

/-- The exact order of two numbers; none when either is no number. -/
def compare? (x y : Binary64) : Option Ordering :=
  match x.shape, y.shape with
  | .nan, _ => none
  | _, .nan => none
  | .infinite a, .infinite b => some (compare (if a then 0 else 1) (if b then 0 else 1 : Nat))
  | .infinite a, _ => some (if a then .lt else .gt)
  | _, .infinite b => some (if b then .gt else .lt)
  | .finite s m e, .finite t n f =>
    let (a, b) := ratio s m e
    let (c, d) := ratio t n f
    some (compare (a * d) (c * b))

/-- The exact order of a number and an integer; none when the number is no number. -/
def compareInt? (x : Binary64) (n : Int) : Option Ordering :=
  match x.shape with
  | .nan => none
  | .infinite a => some (if a then .lt else .gt)
  | .finite s m e =>
    let (a, b) := ratio s m e
    some (compare a (n * b))

/-- The integer left when the fraction is dropped; none for what is not finite. -/
def trunc? (x : Binary64) : Option Int :=
  match x.shape with
  | .finite s m e =>
    let (a, b) := ratio s m e
    some (Int.tdiv a b)
  | _ => none

/-- The integer that the number is, if it is one. -/
def integral? (x : Binary64) : Option Int :=
  match x.shape with
  | .finite s m e =>
    let (a, b) := ratio s m e
    if a % b = 0 then some (a / b) else none
  | _ => none

/-- The machine's number of the same bits. -/
def toFloat (x : Binary64) : Float := Float.ofBits x.bits

def ofFloat (x : Float) : Binary64 := ⟨x.toBits⟩

def neg (x : Binary64) : Binary64 := ⟨x.bits ^^^ 0x8000000000000000⟩

end Binary64
end Userscript
