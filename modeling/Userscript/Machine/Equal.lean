import Userscript.Machine.Kinds

/-!
# Userscript.Machine.Equal

When values are equal, in which order they come, and which count as true.

Numbers of all types compare by what they stand for. Lists, tuples, dictionaries and sets are equal when what
they hold is; other objects are equal only to themselves. Lists and tuples are ordered by their first
difference, sets by inclusion.
-/

namespace Userscript.Machine

def compareDepth : Nat := 1000

inductive Numeric where
  | int (n : Int)
  | num (x : Binary64)

def Value.numeric? (v : Value) : Option Numeric :=
  match v with
  | .bool b => some (.int (if b then 1 else 0))
  | .int n => some (.int n)
  | .num x => some (.num x)
  | _ => Option.none

/-- The order of two numbers; none if one is no number. -/
def Numeric.compare? : Numeric → Numeric → Option Ordering
  | .int a, .int b => some (compare a b)
  | .int a, .num y => (y.compareInt? a).map Ordering.swap
  | .num x, .int b => x.compareInt? b
  | .num x, .num y => x.compare? y

def rangeLength (start stop step : Int) : Nat :=
  if 0 < step then ((stop - start + step - 1) / step).toNat
  else ((start - stop - step - 1) / (-step)).toNat

/-- The order of two lists of a kind by their first difference. -/
def compareLists {α : Type} (f : α → α → Ordering) : List α → List α → Ordering
  | [], [] => .eq
  | [], _ => .lt
  | _, [] => .gt
  | a :: as, b :: bs =>
    match f a b with
    | .eq => compareLists f as bs
    | o => o

/-- The order of two texts, by code points. -/
def compareTexts (a b : String) : Ordering :=
  compareLists (fun (x y : Char) => compare x.toNat y.toNat) a.toList b.toList

namespace Memory

mutual

def equalTo (m : Memory) : Nat → Value → Value → Bool
  | 0, _, _ => false
  | fuel + 1, v, w =>
    match v, w with
    | .none, .none | .ellipsis, .ellipsis | .notImplemented, .notImplemented => true
    | .str a, .str b => a = b
    | .bytes a, .bytes b => a = b
    | .imaginary x, .imaginary y => x.compare? y = some .eq
    | .tuple as, .tuple bs => allEqual m fuel as bs
    | .slice a b c, .slice d e f => allEqual m fuel [a, b, c] [d, e, f]
    | .range a b c, .range d e f =>
      let n := rangeLength a b c
      n = rangeLength d e f && (n = 0 || a = d && (n = 1 || c = f))
    | .type a, .type b => a = b
    | .builtin a, .builtin b => a = b
    | .method (.ref r) a, .method (.ref s) b => r = s && a = b
    | .method v a, .method w b => a = b && equalTo m fuel v w
    | .capability a, .capability b => a = b
    | .foreign a, .foreign b => a = b
    | .ref r, .ref s =>
      r = s ||
        match m.get? r, m.get? s with
        | some (.list as), some (.list bs) => allEqual m fuel as bs
        | some (.dict as), some (.dict bs) =>
          as.length = bs.length && as.all fun a => bs.any fun b =>
            equalTo m fuel a.1 b.1 && equalTo m fuel a.2 b.2
        | some (.set _ as), some (.set _ bs) =>
          as.length = bs.length && as.all fun a => bs.any fun b => equalTo m fuel a b
        | some (.style as), some (.style bs) =>
          ["css", "owner_script_id", "node_id"].all fun name =>
            match Fields.get? name as, Fields.get? name bs with
            | some a, some b => equalTo m fuel a b
            | _, _ => false
        | _, _ => false
    | v, w =>
      match v.numeric?, w.numeric? with
      | some a, some b => a.compare? b = some .eq
      | _, _ => false

/-- Whether two lists of values are equal. -/
def allEqual (m : Memory) : Nat → List Value → List Value → Bool
  | 0, _, _ => false
  | fuel + 1, as, bs => as.length = bs.length && (as.zip bs).all fun p => equalTo m fuel p.1 p.2

end

def equal (m : Memory) (v w : Value) : Bool := m.equalTo compareDepth v w

/-- Whether two values are one and the same. Values that cannot change are if they are equal. -/
def same (m : Memory) (v w : Value) : Bool :=
  match v, w with
  | .ref r, .ref s => r = s
  | .bool a, .bool b => a = b
  | .bool _, _ | _, .bool _ => false
  | .int a, .int b => a = b
  | .int _, _ | _, .int _ => false
  | .num x, .num y => x = y
  | .num _, _ | _, .num _ => false
  | .ref _, _ | _, .ref _ => false
  | v, w => m.equal v w

/-- The type that keeps a value from being a key, if one does. -/
def unhashableIn? (m : Memory) : Nat → Value → Option String
  | 0, _ => none
  | fuel + 1, v =>
    match v with
    | .tuple items => items.findSome? (unhashableIn? m fuel)
    | .slice .. => some "slice"
    | .ref r =>
      match m.get? r with
      | some (.list _) | some (.dict _) | some (.set false _) | some (.style _) => some (m.typeName v)
      | some (.view .keys _) | some (.view .items _) => some (m.typeName v)
      | _ => none
    | _ => none

/-- The type that keeps a value from being a key, if one does. -/
def unhashable? (m : Memory) (v : Value) : Option String := m.unhashableIn? compareDepth v

/-- The value of a key among entries. -/
def lookUp (m : Memory) (key : Value) (entries : List (Value × Value)) : Option Value :=
  (entries.find? fun e => m.equal e.1 key).map (·.2)

/-- Sets the value of a key: at its place if it is there, else at the end. -/
def setEntry (m : Memory) (key value : Value) : List (Value × Value) → List (Value × Value)
  | [] => [(key, value)]
  | (k, v) :: rest =>
    if m.equal k key then (k, value) :: rest else (k, v) :: setEntry m key value rest

/-- The entries without that of a key. -/
def eraseEntry (m : Memory) (key : Value) (entries : List (Value × Value)) : List (Value × Value) :=
  entries.filter fun e => !m.equal e.1 key

/-- Adds a member, unless it is there. -/
def addMember (m : Memory) (v : Value) (items : List Value) : List Value :=
  if items.any fun w => m.equal w v then items else items ++ [v]

def hasMember (m : Memory) (v : Value) (items : List Value) : Bool := items.any fun w => m.equal w v

/-- Whether a value counts as true. -/
def truthy (m : Memory) : Value → Bool
  | .none => false
  | .bool b => b
  | .int n => n ≠ 0
  | .num x => !x.isZero
  | .imaginary x => !x.isZero
  | .str s => s ≠ ""
  | .bytes bs => !bs.isEmpty
  | .tuple items => !items.isEmpty
  | .range a b c => rangeLength a b c ≠ 0
  | .ref r =>
    match m.get? r with
    | some (.list items) => !items.isEmpty
    | some (.dict entries) => !entries.isEmpty
    | some (.set _ items) => !items.isEmpty
    | some (.view _ d) =>
      match m.get? d with
      | some (.dict entries) => !entries.isEmpty
      | _ => true
    | _ => true
  | _ => true

/-- Whether an order is what a comparison asks for. -/
def admits (op : Comparison) (o : Ordering) : Bool :=
  match op with
  | .lt => o = .lt
  | .le => o ≠ .gt
  | .gt => o = .gt
  | .ge => o ≠ .lt
  | .eq => o = .eq
  | _ => o ≠ .eq

/-- Whether one set of members lies in another. -/
def within (m : Memory) (as bs : List Value) : Bool := as.all fun a => m.hasMember a bs

/-- Why values cannot be ordered. -/
def disordered (m : Memory) (op : Comparison) (v w : Value) : String × String :=
  ("TypeError", "'" ++ op.sign ++ "' not supported between instances of '" ++ m.typeName v ++ "' and '" ++
    m.typeName w ++ "'")

/-- Compares two values by one of the four orders; the kind and text of the error if they have none. -/
def orderIn (m : Memory) (op : Comparison) : Nat → Value → Value → Except (String × String) Bool
  | 0, v, w => .error (m.disordered op v w)
  | fuel + 1, v, w =>
    let byItems (as bs : List Value) : Except (String × String) Bool :=
      match (as.zip bs).find? fun p => !m.equal p.1 p.2 with
      | some p => orderIn m op fuel p.1 p.2
      | none => .ok (admits op (compare as.length bs.length))
    match v, w with
    | .str a, .str b => .ok (admits op (compareTexts a b))
    | .bytes a, .bytes b => .ok (admits op (compareLists (fun (x y : UInt8) => compare x y) a b))
    | .tuple as, .tuple bs => byItems as bs
    | .ref r, .ref s =>
      match m.get? r, m.get? s with
      | some (.list as), some (.list bs) => byItems as bs
      | some (.set _ as), some (.set _ bs) =>
        .ok (match op with
          | .lt => m.within as bs && as.length < bs.length
          | .le => m.within as bs
          | .gt => m.within bs as && bs.length < as.length
          | _ => m.within bs as)
      | _, _ => .error (m.disordered op v w)
    | v, w =>
      match v.numeric?, w.numeric? with
      | some a, some b =>
        match a.compare? b with
        | some o => .ok (admits op o)
        | none => .ok false
      | _, _ => .error (m.disordered op v w)

/-- Compares two values by one of the four orders. -/
def order (m : Memory) (op : Comparison) (v w : Value) : Except (String × String) Bool :=
  m.orderIn op compareDepth v w

end Memory
end Userscript.Machine
