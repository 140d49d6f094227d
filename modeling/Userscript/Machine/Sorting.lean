import Userscript.Machine.Arity

/-!
# Userscript.Machine.Sorting

Sorting by `<`, which may not be defined for two values. The run that a list begins with is looked for first;
the other items are then put in one after another, each at the place that halving finds. Items of which
neither is less keep their order.
-/

namespace Userscript.Machine

namespace Sorting

/-- An item with what it is compared by. -/
abbrev Keyed := Value × Value

variable (m : Memory)

/-- Whether one item is less than another. -/
def less (a b : Keyed) : Except Refusal Bool := m.order .lt a.1 b.1

/-- The rest of a run whose last item is given, and what follows it; `run` is the run so far, last first. -/
def extend (down : Bool) (last : Keyed) (run : List Keyed) : List Keyed → Except Refusal (List Keyed × List Keyed)
  | [] => .ok (run, [])
  | x :: rest =>
    match less m x last with
    | .error e => .error e
    | .ok l => if l = down then extend down x (x :: run) rest else .ok (run, x :: rest)

/-- The run with which items begin, in order, and what follows it. -/
def firstRun : List Keyed → Except Refusal (List Keyed × List Keyed)
  | x :: y :: rest =>
    match less m y x with
    | .error e => .error e
    | .ok down =>
      match extend m down y [y, x] rest with
      | .error e => .error e
      | .ok (run, rest) => .ok (if down then run else run.reverse, rest)
  | xs => .ok (xs, [])

/-- The place for an item among sorted ones, between `low` and `high`. -/
def place (sorted : Array Keyed) (x : Keyed) : Nat → Nat → Nat → Except Refusal Nat
  | 0, low, _ => .ok low
  | fuel + 1, low, high =>
    if low < high then
      let middle := low + (high - low) / 2
      match sorted[middle]? with
      | none => .ok low
      | some y =>
        match less m x y with
        | .error e => .error e
        | .ok true => place sorted x fuel low middle
        | .ok false => place sorted x fuel (middle + 1) high
    else .ok low

/-- Puts items into their places among sorted ones. -/
def insertAll : List Keyed → List Keyed → Except Refusal (List Keyed)
  | sorted, [] => .ok sorted
  | sorted, x :: rest =>
    match place m sorted.toArray x (sorted.length + 1) 0 sorted.length with
    | .error e => .error e
    | .ok i => insertAll (sorted.take i ++ x :: sorted.drop i) rest

def sorted (xs : List Keyed) : Except Refusal (List Keyed) :=
  match firstRun m xs with
  | .error e => .error e
  | .ok (run, rest) => insertAll m run rest

end Sorting

open Act

/-- Items sorted by what a function makes of them, perhaps backwards. -/
def sortItems (c : Calls) (key? : Option Value) (backwards : Bool) (items : List Value) :
    Act (List Value) := do
  let keys ← match key? with
    | some .none | none => pure items
    | some f => each (fun v => c.call f [v] []) items
  let m ← look id
  let pairs := keys.zip items
  let r ← lift (Sorting.sorted m (if backwards then pairs.reverse else pairs))
  let out := r.map (·.2)
  return if backwards then out.reverse else out

end Userscript.Machine
