/-!
# Userscript.Text.Range

Classes of characters held as the code points at which membership changes: a code point belongs to
the class when an odd number of cuts lie at or below it.

* `cutsUpTo` counts the cuts at or below a code point by bisection;
* `inCuts` is membership.
-/

namespace Userscript.Text

/-- How many entries of a sorted table are at most `n`. -/
def cutsUpTo (cuts : Array Nat) (n : Nat) : Nat :=
  let rec go (fuel lo hi : Nat) : Nat :=
    match fuel with
    | 0 => lo
    | fuel + 1 =>
      if hi ≤ lo then lo
      else
        let mid := (lo + hi) / 2
        match cuts[mid]? with
        | none => lo
        | some k => if k ≤ n then go fuel (mid + 1) hi else go fuel lo mid
  go (cuts.size + 1) 0 cuts.size

/-- Membership in the class that the cuts describe. -/
def inCuts (cuts : Array Nat) (n : Nat) : Bool :=
  cutsUpTo cuts n % 2 == 1

end Userscript.Text
