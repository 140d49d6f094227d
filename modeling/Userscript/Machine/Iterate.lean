import Userscript.Machine.Members
import Userscript.Machine.Operate

/-!
# Userscript.Machine.Iterate

Going through the items of values.

`Calls` holds what the machine does one level deeper: calls, and going on with generators. `iteratorOf` gives
an iterator for a value, `nextOf` its next item, and `itemsOf` all that are left.
-/

namespace Userscript.Machine

/-- How a generator goes on. -/
inductive Resume where
  | send (value : Value)
  | throw (error : Value)

/-- How far a generator came. -/
inductive Yielded where
  | item (value : Value)
  | finished (result : Value)

/-- What the machine does one level deeper. -/
structure Calls where
  /-- Calls a value with arguments, some of them named. -/
  call : Value → List Value → List (String × Value) → Act Value
  /-- The next item of an iterator. -/
  next : Value → Act (Option Value)
  /-- Goes on with a generator. -/
  resume : Ref → Resume → Act Yielded

/-- A bound on how often anything is repeated. -/
def turns : Nat := 1000000000000

namespace Iterate

open Act

/-- Raises that a value has no items. -/
def notIterable {α : Type} (v : Value) : Act α := do
  let type ← look (·.typeName v)
  typeError ("'" ++ type ++ "' object is not iterable")

/-- The items of a dictionary that a view shows. -/
def partOf (part : Part) (entries : List (Value × Value)) : List Value :=
  match part with
  | .keys => entries.map (·.1)
  | .values => entries.map (·.2)
  | .items => entries.map fun e => .tuple [e.1, e.2]

def rangeItems (start step : Int) (n : Nat) : List Value :=
  (List.range n).map fun (i : Nat) => .int (start + step * i)

/-- The items of a value that has them at hand. -/
def directItems? (m : Memory) (v : Value) : Option (List Value) :=
  match v with
  | .str s => some (s.toList.map fun c => .str (String.singleton c))
  | .bytes bs => some (bs.map fun b => .int b.toNat)
  | .tuple items => some items
  | .range a b c => some (rangeItems a c (rangeLength a b c))
  | .ref r =>
    match m.get? r with
    | some (.list items) => some items
    | some (.dict entries) => some (entries.map (·.1))
    | some (.set _ items) => some (Members.inOrder items)
    | some (.view part d) =>
      match m.get? d with
      | some (.dict entries) => some (partOf part entries)
      | _ => none
    | _ => none
  | _ => none

def isIterable (m : Memory) (v : Value) : Bool :=
  match v with
  | .str _ | .bytes _ | .tuple _ | .range .. => true
  | .ref r =>
    match m.get? r with
    | some (.list _) | some (.dict _) | some (.set ..) | some (.view ..) | some (.iterator _)
    | some (.generator ..) => true
    | _ => false
  | _ => false

/-- How many entries a dictionary has. -/
def sizeOf (m : Memory) (d : Ref) : Nat :=
  match m.get? d with
  | some (.dict entries) => entries.length
  | some (.set _ items) => items.length
  | some (.list items) => items.length
  | _ => 0

def iteratorOf (v : Value) : Act Value := do
  let new (it : Iterator) : Act Value := make (.iterator it)
  let m ← look id
  let fixed (type : String) : Act Value := new (.fixed type ((directItems? m v).getD []))
  match v with
  | .str s => fixed (if s.toList.all (·.toNat < 128) then "str_ascii_iterator" else "str_iterator")
  | .bytes _ => fixed "bytes_iterator"
  | .tuple _ => fixed "tuple_iterator"
  | .range a b c => new (.range a b c)
  | .ref r =>
    match m.get? r with
    | some (.list _) => new (.list r 0)
    | some (.dict _) => new (.entries .keys r 0 (sizeOf m r))
    | some (.set ..) => new (.members r 0 (sizeOf m r))
    | some (.view part d) => new (.entries part d 0 (sizeOf m d))
    | some (.iterator _) | some (.generator ..) => return v
    | _ => notIterable v
  | v => notIterable v

variable (c : Calls)

/-- The next items of iterators, unless one is at its end; then, how many gave an item before it. -/
def nextOfAll : List Value → List Value → Act (Except Nat (List Value))
  | [], out => return .ok out.reverse
  | it :: rest, out => do
    match ← c.next it with
    | some v => nextOfAll rest (v :: out)
    | none => return .error out.length

/-- The next item that passes a test. -/
def nextPassing (f inner : Value) : Nat → Act (Option Value)
  | 0 => fail .endless
  | fuel + 1 => do
    match ← c.next inner with
    | none => return none
    | some v =>
      let passes ← match f with
        | .none => look (·.truthy v)
        | .type "bool" => look (·.truthy v)
        | f => do
          let r ← c.call f [v] []
          look (·.truthy r)
      if passes then return some v else nextPassing f inner fuel

/-- How messages name the first so many arguments. -/
def firstArguments (n : Nat) : String := if n = 1 then "argument 1" else "arguments 1-" ++ toString n

/-- Raises an error if one of the iterators after the first `n` has an item left. -/
def expectDone : List Value → Nat → Act (Option Value)
  | [], _ => return none
  | it :: rest, n => do
    match ← c.next it with
    | none => expectDone rest (n + 1)
    | some _ =>
      valueError ("zip() argument " ++ toString (n + 1) ++ " is longer than " ++ firstArguments n)

/-- The next item of the iterator at a place. -/
def nextOf (r : Ref) (it : Iterator) : Act (Option Value) := do
  let stay (it : Iterator) (v : Value) : Act (Option Value) := do
    put r (.iterator it)
    return some v
  let stop : Act (Option Value) := do
    put r (.iterator (.done it.typeName))
    return none
  match it with
  | .done _ => return none
  | .fixed _ [] => stop
  | .fixed type (v :: rest) => stay (.fixed type rest) v
  | .list l i =>
    match (← look (·.get? l)) with
    | some (.list items) =>
      match items[i]? with
      | some v => stay (.list l (i + 1)) v
      | none => stop
    | _ => stop
  | .back l i =>
    match i, (← look (·.get? l)) with
    | i + 1, some (.list items) =>
      match items[i]? with
      | some v => stay (.back l i) v
      | none => stop
    | _, _ => stop
  | .entries part d i size =>
    match (← look (·.get? d)) with
    | some (.dict entries) =>
      if entries.length ≠ size then
        put r (.iterator (.entries part d i 0))
        raise "RuntimeError" "dictionary changed size during iteration"
      else match (partOf part entries)[i]? with
        | some v => stay (.entries part d (i + 1) size) v
        | none => stop
    | _ => stop
  | .members s i size =>
    match (← look (·.get? s)) with
    | some (.set _ items) =>
      if items.length ≠ size then raise "RuntimeError" "Set changed size during iteration"
      else match (Members.inOrder items)[i]? with
        | some v => stay (.members s (i + 1) size) v
        | none => stop
    | _ => stop
  | .range a b step =>
    if rangeLength a b step = 0 then stop else stay (.range (a + step) b step) (.int a)
  | .enumerate inner n =>
    match ← c.next inner with
    | some v => stay (.enumerate inner (n + 1)) (.tuple [.int n, v])
    | none => stop
  | .zip [] _ => return none
  | .zip inner strict =>
    match ← nextOfAll c inner [] with
    | .ok vs => return some (.tuple vs)
    | .error i =>
      if !strict then return none
      else if i = 0 then expectDone c (inner.drop 1) 1
      else
        valueError ("zip() argument " ++ toString (i + 1) ++ " is shorter than " ++ firstArguments i)
  | .map f inner =>
    match ← nextOfAll c inner [] with
    | .ok vs => some <$> c.call f vs []
    | .error _ => return none
  | .filter f inner => nextPassing c f inner turns
  | .calls f last =>
    let v ← c.call f [] []
    if ← look (·.equal v last) then stop else return some v

def next (v : Value) : Act (Option Value) := do
  match v with
  | .ref r =>
    match ← look (·.get? r) with
    | some (.iterator it) => nextOf c r it
    | some (.generator ..) =>
      match ← c.resume r (.send .none) with
      | .item v => return some v
      | .finished _ => return none
    | _ => notAnIterator
  | _ => notAnIterator
where
  /-- Raises that a value is no iterator. -/
  notAnIterator : Act (Option Value) := do
    let type ← look (·.typeName v)
    typeError ("'" ++ type ++ "' object is not an iterator")

/-- The items that an iterator has left, behind those in `out`, last first. -/
def drain (it : Value) : Nat → List Value → Act (List Value)
  | 0, _ => fail .endless
  | fuel + 1, out => do
    match ← c.next it with
    | some v => drain it fuel (v :: out)
    | none => return out.reverse

def itemsOf (v : Value) : Act (List Value) := do
  if let .range a b step := v then Operate.checkSize (rangeLength a b step) 1
  match ← look (directItems? · v) with
  | some items => return items
  | none =>
    let it ← iteratorOf v
    drain c it turns []

end Iterate
end Userscript.Machine
