import Userscript.Machine.Value

/-!
# Userscript.Machine.Members

The order in which a set gives its members.

A set keeps its members in slots, whose number is a power of two, and a whole number has the slot of its
remainder. So small numbers come in ascending order. Where two numbers want one slot, or a member is no whole
number, the members come as they were put in.
-/

namespace Userscript.Machine.Members

/-- How many slots there are for so many members: four times as many whenever three fifths are taken. -/
def slots (members : Nat) : Nat :=
  (List.range 32).foldl (fun n _ => if 3 * (n - 1) ≤ 5 * members then 4 * n else n) 8

/-- The slot that a member wants, if it is a whole number. The number before zero wants that of the one before
it. -/
def slot? (slots : Nat) : Value → Option Nat
  | .int n => some ((if n = -1 then -2 else n) % (slots : Int)).toNat
  | .bool b => some (if b then 1 else 0)
  | _ => none

/-- Members in the order in which a set gives them. -/
def inOrder (members : List Value) : List Value :=
  let n := slots members.length
  match members.mapM (slot? n) with
  | none => members
  | some wanted =>
    let sorted := (wanted.zip members).mergeSort fun a b => a.1 ≤ b.1
    if (sorted.zip (sorted.drop 1)).all fun (a, b) => a.1 ≠ b.1 then sorted.map (·.2) else members

end Userscript.Machine.Members
