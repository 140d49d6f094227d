import Userscript.Machine.Iterate

/-!
# Userscript.Machine.Item

Items by index, by key and by slice: reading, setting and deleting them, and whether a value holds an item.

A negative index counts from the end.
-/

namespace Userscript.Machine

namespace Item

open Act

/-- The place of an index in something of a length, if it lies inside. -/
def place? (n : Int) (length : Nat) : Option Nat :=
  let i := if n < 0 then n + length else n
  if 0 ≤ i && i < length then some i.toNat else none

/-- A bound of a slice; none if it is left out. -/
def bound? (v : Value) : Except Refusal (Option Int) :=
  match v with
  | .none => .ok none
  | v =>
    match Operate.index? v with
    | some n => .ok (some n)
    | none =>
      .error (.type "slice indices must be integers or None or have an __index__ method")

/-- Start, stop and step of a slice of something of a length. -/
def sliceBounds (length : Nat) (a b c : Value) : Except Refusal (Int × Int × Int) := do
  let step := (← bound? c).getD 1
  if step = 0 then throw (.value "slice step cannot be zero")
  let low : Int := if 0 < step then 0 else -1
  let high : Int := if 0 < step then length else length - 1
  let settle (n? : Option Int) (default : Int) : Int :=
    match n? with
    | none => default
    | some n =>
      let n := if n < 0 then n + length else n
      max low (min high n)
  let start := settle (← bound? a) (if 0 < step then low else high)
  let stop := settle (← bound? b) (if 0 < step then high else low)
  return (start, stop, step)

def slicePlaces (length : Nat) (a b c : Value) : Except Refusal (List Nat) := do
  let (start, stop, step) ← sliceBounds length a b c
  return (List.range (rangeLength start stop step)).map fun (i : Nat) => (start + step * i).toNat

def sliced {α : Type} (xs : List α) (a b c : Value) : Except Refusal (List α) := do
  let places ← slicePlaces xs.length a b c
  let all := xs.toArray
  return places.filterMap fun i => all[i]?

/-- Raises that a value cannot be a key. -/
def checkKey (k : Value) : Act Unit := do
  match ← look (·.unhashable? k) with
  | some type => typeError ("unhashable type: '" ++ type ++ "'")
  | none => return

/-- The bound of numbers that can be an index. -/
def indexBound : Int := 0x8000000000000000

/-- Raises that there is no item at an index; `noun` tells where. -/
def outside {α : Type} (n : Int) (noun : String) : Act α :=
  raise "IndexError"
    (if n < -indexBound || indexBound ≤ n then "cannot fit 'int' into an index-sized integer"
    else noun ++ "index out of range")

/-- The item of an index or slice in a sequence. -/
def inSequence {α : Type} (name : String) (noun : String) (xs : List α) (k : Value)
    (one : α → Act Value) (many : List α → Act Value) : Act Value := do
  match k with
  | .slice a b c =>
    let r ← lift (sliced xs a b c)
    many r
  | k =>
    match Operate.index? k with
    | some n =>
      match (place? n xs.length).bind (xs[·]?) with
      | some x => one x
      | none => outside n noun
    | none =>
      let type ← look (·.typeName k)
      if name = "string" then
        typeError ("string indices must be integers, not '" ++ type ++ "'")
      else typeError (name ++ " indices must be integers or slices, not " ++ type)

/-- The item of an index, key or slice. -/
def get (v k : Value) : Act Value := do
  let refuse : Act Value := do
    let type ← look (·.typeName v)
    typeError ("'" ++ type ++ "' object is not subscriptable")
  match v with
  | .str s =>
    inSequence "string" "string " s.toList k (fun c => return .str (String.singleton c))
      (fun cs => return .str (String.ofList cs))
  | .bytes bs =>
    inSequence "byte" "" bs k (fun b => return .int b.toNat) (fun bs => return .bytes bs)
  | .tuple items => inSequence "tuple" "tuple " items k (return ·) (return .tuple ·)
  | .range a b step =>
    match k with
    | .slice x y z =>
      let (start, stop, by') ← lift (sliceBounds (rangeLength a b step) x y z)
      return .range (a + step * start) (a + step * stop) (step * by')
    | k =>
      match Operate.index? k with
      | some n =>
        match place? n (rangeLength a b step) with
        | some i => return .int (a + step * i)
        | none => raise "IndexError" "range object index out of range"
      | none =>
        let type ← look (·.typeName k)
        typeError ("range indices must be integers or slices, not " ++ type)
  | .type name => typeError ("type '" ++ name ++ "' is not subscriptable")
  | .ref r =>
    match ← look (·.get? r) with
    | some (.list items) => inSequence "list" "list " items k (return ·) (fun xs => make (.list xs))
    | some (.dict entries) =>
      checkKey k
      match ← look (·.lookUp k entries) with
      | some v => return v
      | none => raiseWith "KeyError" [k]
    | _ => refuse
  | _ => refuse

variable (c : Calls)

/-- A list with items put into the places of a slice. -/
def replaced (xs : List Value) (a b step : Value) (items : List Value) :
    Except Refusal (List Value) := do
  let (start, stop, by') ← sliceBounds xs.length a b step
  if by' = 1 then
    let start := start.toNat
    return xs.take start ++ items ++ xs.drop (max start stop.toNat)
  else
    let places ← slicePlaces xs.length a b step
    if places.length ≠ items.length then
      throw (.value ("attempt to assign sequence of size " ++ toString items.length ++
        " to extended slice of size " ++ toString places.length))
    else return (places.zip items).foldl (fun out p => out.set p.1 p.2) xs

/-- Sets the item of an index, key or slice. -/
def set (v k item : Value) : Act Unit := do
  let refuse : Act Unit := do
    let type ← look (·.typeName v)
    typeError ("'" ++ type ++ "' object does not support item assignment")
  match v with
  | .ref r =>
    match ← look (·.get? r) with
    | some (.list items) =>
      match k with
      | .slice a b step =>
        let (_, _, by') ← lift (sliceBounds items.length a b step)
        let many ← if ← look (Iterate.isIterable · item) then Iterate.itemsOf c item
          else typeError (if by' = 1 then "can only assign an iterable"
            else "must assign iterable to extended slice")
        let xs ← lift (replaced items a b step many)
        put r (.list xs)
      | k =>
        match Operate.index? k with
        | some n =>
          match place? n items.length with
          | some i => put r (.list (items.set i item))
          | none => outside n "list assignment "
        | none =>
          let type ← look (·.typeName k)
          typeError ("list indices must be integers or slices, not " ++ type)
    | some (.dict entries) =>
      checkKey k
      let m ← look id
      put r (.dict (m.setEntry k item entries))
    | _ => refuse
  | _ => refuse

/-- Whether a value has items in an order, or is like something that has. -/
def isOrdered (m : Memory) (v : Value) : Bool :=
  match v with
  | .str _ | .bytes _ | .tuple _ | .range .. => true
  | .ref r =>
    match m.get? r with
    | some (.set ..) | some (.view ..) => true
    | _ => false
  | _ => false

/-- Deletes the item of an index, key or slice. -/
def delete (v k : Value) : Act Unit := do
  let refuse : Act Unit := do
    let m ← look id
    let not' := if isOrdered m v && (Operate.index? k).isSome then "doesn't" else "does not"
    typeError ("'" ++ m.typeName v ++ "' object " ++ not' ++ " support item deletion")
  match v with
  | .ref r =>
    match ← look (·.get? r) with
    | some (.list items) =>
      match k with
      | .slice a b step =>
        let places ← lift (slicePlaces items.length a b step)
        let kept := (items.zipIdx).filter fun p => !places.contains p.2
        put r (.list (kept.map (·.1)))
      | k =>
        match Operate.index? k with
        | some n =>
          match place? n items.length with
          | some i => put r (.list (items.eraseIdx i))
          | none => outside n "list assignment "
        | none =>
          let type ← look (·.typeName k)
          typeError ("list indices must be integers or slices, not " ++ type)
    | some (.dict entries) =>
      checkKey k
      let m ← look id
      if (m.lookUp k entries).isSome then put r (.dict (m.eraseEntry k entries))
      else raiseWith "KeyError" [k]
    | _ => refuse
  | _ => refuse

/-- Whether some characters stand in others. -/
def occursIn {α : Type} [BEq α] (xs : List α) : List α → Bool
  | [] => xs.isEmpty
  | y :: ys => xs.isPrefixOf (y :: ys) || occursIn xs ys

/-- Goes through an iterator up to an item. -/
def seek (it item : Value) : Nat → Act Bool
  | 0 => fail .endless
  | fuel + 1 => do
    match ← c.next it with
    | none => return false
    | some v => if ← look (·.equal v item) then return true else seek it item fuel

def holds (v item : Value) : Act Bool := do
  let byIteration : Act Bool := do
    let refuse {α : Type} : Act α := do
      let type ← look (·.typeName v)
      typeError ("argument of type '" ++ type ++ "' is not iterable")
    match v with
    | .ref r =>
      match ← look (·.get? r) with
      | some (.iterator _) | some (.generator ..) => seek c v item turns
      | _ => refuse
    | _ => refuse
  match v with
  | .str s =>
    match item with
    | .str t => return occursIn t.toList s.toList
    | item =>
      let type ← look (·.typeName item)
      typeError ("'in <string>' requires string as left operand, not " ++ type)
  | .bytes bs =>
    match item with
    | .bytes cs => return occursIn cs bs
    | item =>
      match Operate.index? item with
      | some n =>
        if 0 ≤ n && n < 256 then return bs.any fun b => b.toNat = n
        else valueError "byte must be in range(0, 256)"
      | none =>
        let type ← look (·.typeName item)
        typeError ("a bytes-like object is required, not '" ++ type ++ "'")
  | .tuple items => look (·.hasMember item items)
  | .range a b step =>
    let whole? := match item.numeric? with
      | some (.int n) => some n
      | some (.num x) => x.integral?
      | none => none
    match whole? with
    | some n =>
      let inside := if 0 < step then a ≤ n && n < b else b < n && n ≤ a
      return inside && (n - a) % step = 0
    | none => return false
  | .ref r =>
    match ← look (·.get? r) with
    | some (.list items) => look (·.hasMember item items)
    | some (.dict entries) =>
      checkKey item
      return (← look (·.lookUp item entries)).isSome
    | some (.set _ items) =>
      checkKey item
      look (·.hasMember item items)
    | some (.view ..) => do
      let items ← Iterate.itemsOf c v
      look (·.hasMember item items)
    | _ => byIteration
  | _ => byIteration

end Item
end Userscript.Machine
