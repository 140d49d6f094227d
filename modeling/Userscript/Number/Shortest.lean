import Userscript.Number.Binary64

/-!
# Userscript.Number.Shortest

The decimal text of a binary64 number: the fewest digits that read back as the same number, and of
those the nearest.

A finite positive number stands for an interval of reals, those that round to it; its ends belong to
it when the significand is even. On the grid of multiples of `10 ^ p` the number has two neighbours.
`shortest` takes the coarsest grid on which a neighbour lies in the interval, and of two the nearer.
-/

namespace Userscript.Binary64

/-- A quotient `x * 2 ^ e / 10 ^ p`, as numerator and denominator. -/
def onGrid (x : Nat) (e p : Int) : Nat × Nat :=
  let num := x * (if 0 ≤ e then Nat.pow 2 e.toNat else 1) * (if 0 ≤ p then 1 else Nat.pow 10 (-p).toNat)
  let den := (if 0 ≤ e then 1 else Nat.pow 2 (-e).toNat) * (if 0 ≤ p then Nat.pow 10 p.toNat else 1)
  (num, den)

/-- Whether the line `k` of a grid lies between two bounds. -/
def isBetween (closed : Bool) (low high step k : Nat) : Bool :=
  0 < k && (if closed then low ≤ k * step && k * step ≤ high else low < k * step && k * step < high)

/-- Of two neighbouring lines the one that may be taken; of both the one nearer to what is `r` above the
first, and if both are as near the even one. -/
def nearer? (first second : Bool) (k r step : Nat) : Option Nat :=
  match first, second with
  | true, true =>
    if 2 * r < step then some k
    else if step < 2 * r then some (k + 1)
    else if k % 2 = 0 then some k else some (k + 1)
  | true, false => some k
  | false, true => some (k + 1)
  | false, false => none

/-- The neighbour of `m * 2 ^ e` on the grid of `10 ^ p` that reads back as it. -/
def neighbour? (m : Nat) (e p : Int) : Option Nat :=
  let below := if m = Nat.pow 2 52 && e ≠ -1074 then 4 * m - 1 else 4 * m - 2
  let above := 4 * m + 2
  let (low, step) := onGrid below (e - 2) p
  let (mid, _) := onGrid (4 * m) (e - 2) p
  let (high, _) := onGrid above (e - 2) p
  let reads := isBetween (m % 2 = 0) low high step
  let k := mid / step
  nearer? (reads k) (reads (k + 1)) k (mid % step) step

/-- The first grid, going from `10 ^ p` to finer ones, that has a neighbour reading back. -/
def shortestFrom (m : Nat) (e : Int) : Nat → Int → Nat × Int
  | 0, p => (0, p)
  | fuel + 1, p =>
    match neighbour? m e p with
    | some k => (k, p)
    | none => shortestFrom m e fuel (p - 1)

/-- Drops the zeros that end the digits. -/
def stripZeros : Nat → Nat → Int → Nat × Int
  | 0, k, p => (k, p)
  | fuel + 1, k, p => if k % 10 = 0 && k ≠ 0 then stripZeros fuel (k / 10) (p + 1) else (k, p)

/-- Digits and power of ten of the shortest decimal that reads back as `m * 2 ^ e`, `m` positive. -/
def shortest (m : Nat) (e : Int) : Nat × Int :=
  let top : Int := ((m.log2 : Int) + 1 + e) * 30103 / 100000 + 1
  let (k, p) := shortestFrom m e 40 top
  stripZeros 20 k p

/-- How the digits of a decimal are laid out. -/
structure Layout where
  /-- Least power of ten of the first digit that is written positionally. -/
  positionalFrom : Int
  /-- Least power of ten of the first digit that is no longer written positionally. -/
  positionalBelow : Int
  /-- Fewest digits of an exponent. -/
  exponentWidth : Nat

/-- Numbers are written positionally from `0.0001` on and below `10 ^ 16`, and else with an exponent
of two digits at least. -/
def numberLayout : Layout := ⟨-4, 16, 2⟩

def zeros (n : Nat) : String := String.ofList (List.replicate n '0')

/-- The text of `digits * 10 ^ p` under a layout; a positional text always has a fraction. -/
def Layout.write (l : Layout) (digits : Nat) (p : Int) : String :=
  let ds := toString digits
  let first : Int := p + ds.length - 1
  if l.positionalFrom ≤ first && first < l.positionalBelow then
    if 0 ≤ p then ds ++ zeros p.toNat ++ ".0"
    else if 0 ≤ first then
      let whole := (first + 1).toNat
      String.ofList (ds.toList.take whole) ++ "." ++ String.ofList (ds.toList.drop whole)
    else "0." ++ zeros (-first - 1).toNat ++ ds
  else
    let mark := String.ofList (ds.toList.take 1) ++
      (if ds.length = 1 then "" else "." ++ String.ofList (ds.toList.drop 1))
    let size := toString first.natAbs
    mark ++ "e" ++ (if first < 0 then "-" else "+") ++ zeros (l.exponentWidth - size.length) ++ size

def text (x : Binary64) : String :=
  match x.shape with
  | .nan => "nan"
  | .infinite s => if s then "-inf" else "inf"
  | .finite s m e =>
    (if s then "-" else "") ++
      (if m = 0 then "0.0" else
        let (k, p) := shortest m e
        numberLayout.write k p)

end Userscript.Binary64
