import Userscript.Machine.Sorting

/-!
# Userscript.Machine.Method.Collection

The methods of lists, tuples, dictionaries and sets.
-/

namespace Userscript.Machine.Method

open Act

variable (c : Calls)

/-! ## Lists and tuples -/

def listNames : List String := [
  "append", "clear", "copy", "count", "extend", "index", "insert", "pop", "remove", "reverse", "sort"]

def tupleNames : List String := ["count", "index"]

/-- The place of an item between two indices. -/
def indexOf (items : List Value) (args : List Value) (missing : Act Value) : Act Value := do
  let item := args.headD .none
  let clip (v : Value) : Act Nat := do
    let n ← Arity.whole v
    return (if n < 0 then max 0 (n + items.length) else n).toNat
  let start ← match args[1]? with
    | some v => clip v
    | none => pure 0
  let stop ← match args[2]? with
    | some v => clip v
    | none => pure items.length
  let m ← look id
  match (items.zipIdx.take stop).drop start |>.find? fun p => m.equal p.1 item with
  | some (_, i) => return .int i
  | none => missing

def ofList (r : Ref) (items : List Value) (name : String) (args : List Value) (named : Arity.Named) :
    Act Value := do
  let what := "list." ++ name
  match name with
  | "append" =>
    let v ← Arity.one what args named
    put r (.list (items ++ [v]))
    return .none
  | "extend" =>
    let v ← Arity.one what args named
    let more ← Iterate.itemsOf c v
    put r (.list (items ++ more))
    return .none
  | "clear" =>
    Arity.none what args named
    put r (.list [])
    return .none
  | "copy" =>
    Arity.none what args named
    make (.list items)
  | "reverse" =>
    Arity.none what args named
    put r (.list items.reverse)
    return .none
  | "count" =>
    let v ← Arity.one what args named
    let m ← look id
    return .int (items.countP fun w => m.equal w v)
  | "index" =>
    Arity.noNames what named
    Arity.between name 1 3 args []
    let shown ← look (·.shown (args.headD .none))
    indexOf items args (valueError (shown ++ " is not in list"))
  | "insert" =>
    Arity.noNames what named
    Arity.between name 2 2 args []
    let n ← Arity.whole (args.headD .none)
    let i := (if n < 0 then max 0 (n + items.length) else n).toNat
    put r (.list (items.take i ++ args.getD 1 .none :: items.drop i))
    return .none
  | "pop" =>
    Arity.noNames what named
    Arity.between name 0 1 args []
    let n ← match args with
      | v :: _ => Arity.whole v
      | [] => pure (-1)
    if items.isEmpty then raise "IndexError" "pop from empty list"
    else match Item.place? n items.length with
      | some i =>
        put r (.list (items.eraseIdx i))
        return items.getD i .none
      | none => raise "IndexError" "pop index out of range"
  | "remove" =>
    let v ← Arity.one what args named
    let m ← look id
    match items.findIdx? fun w => m.equal w v with
    | some i =>
      put r (.list (items.eraseIdx i))
      return .none
    | none => valueError "list.remove(x): x not in list"
  | _ =>
    Arity.known "sort" ["key", "reverse"] named
    if !args.isEmpty then typeError "sort() takes no positional arguments"
    else
      let backwards ← match Fields.get? "reverse" named with
        | some v => look (·.truthy v)
        | none => pure false
      let sorted ← sortItems c (Fields.get? "key" named) backwards items
      put r (.list sorted)
      return .none

def ofTuple (items : List Value) (name : String) (args : List Value) (named : Arity.Named) : Act Value := do
  match name with
  | "count" =>
    let v ← Arity.one "tuple.count" args named
    let m ← look id
    return .int (items.countP fun w => m.equal w v)
  | _ =>
    Arity.noNames "tuple.index" named
    Arity.between name 1 3 args []
    indexOf items args (valueError "tuple.index(x): x not in tuple")

/-! ## Dictionaries -/

def dictNames : List String := [
  "clear", "copy", "fromkeys", "get", "items", "keys", "pop", "popitem", "setdefault", "update", "values"]

def pairsFrom : Nat → List Value → Act (List (Value × Value))
  | _, [] => return []
  | i, v :: rest => do
    if !(← look (Iterate.isIterable · v)) then
      typeError ("cannot convert dictionary update sequence element #" ++ toString i ++ " to a sequence")
    else
      match ← Iterate.itemsOf c v with
      | [k, w] =>
        let more ← pairsFrom (i + 1) rest
        return (k, w) :: more
      | items =>
        valueError ("dictionary update sequence element #" ++ toString i ++ " has length " ++
          toString items.length ++ "; 2 is required")

/-- The entries that a dictionary, or a value that gives pairs, holds. -/
def entriesOf (v : Value) : Act (List (Value × Value)) := do
  let byPairs : Act (List (Value × Value)) := do
    let items ← Iterate.itemsOf c v
    pairsFrom c 0 items
  match v with
  | .ref r =>
    match ← look (·.get? r) with
    | some (.dict entries) => return entries
    | _ => byPairs
  | _ => byPairs

def withEntries (entries more : List (Value × Value)) : Act (List (Value × Value)) := do
  let _ ← each (fun (e : Value × Value) => Item.checkKey e.1) more
  let m ← look id
  return more.foldl (fun out e => m.setEntry e.1 e.2 out) entries

/-- The entries of the arguments of `dict` and `update`. -/
def gatherEntries (name : String) (entries : List (Value × Value)) (args : List Value)
    (named : Arity.Named) : Act (List (Value × Value)) := do
  Arity.between name 0 1 args []
  let entries ← match args with
    | v :: _ => do
      let more ← entriesOf c v
      withEntries entries more
    | [] => pure entries
  withEntries entries (named.map fun p => (.str p.1, p.2))

def ofDict (r : Ref) (entries : List (Value × Value)) (name : String) (args : List Value)
    (named : Arity.Named) : Act Value := do
  let what := "dict." ++ name
  let key := args.headD .none
  match name with
  | "get" =>
    Arity.noNames what named
    Arity.between name 1 2 args []
    Item.checkKey key
    return (← look (·.lookUp key entries)).getD (args.getD 1 .none)
  | "keys" =>
    Arity.none what args named
    make (.view .keys r)
  | "values" =>
    Arity.none what args named
    make (.view .values r)
  | "items" =>
    Arity.none what args named
    make (.view .items r)
  | "copy" =>
    Arity.none what args named
    make (.dict entries)
  | "clear" =>
    Arity.none what args named
    put r (.dict [])
    return .none
  | "pop" =>
    Arity.noNames what named
    Arity.between name 1 2 args []
    Item.checkKey key
    let m ← look id
    match m.lookUp key entries, args[1]? with
    | some v, _ =>
      put r (.dict (m.eraseEntry key entries))
      return v
    | none, some v => return v
    | none, none => raiseWith "KeyError" [key]
  | "popitem" =>
    Arity.none what args named
    match entries.getLast? with
    | some (k, v) =>
      put r (.dict entries.dropLast)
      return .tuple [k, v]
    | none => raise "KeyError" "popitem(): dictionary is empty"
  | "setdefault" =>
    Arity.noNames what named
    Arity.between name 1 2 args []
    Item.checkKey key
    let m ← look id
    match m.lookUp key entries with
    | some v => return v
    | none =>
      let v := args.getD 1 .none
      put r (.dict (m.setEntry key v entries))
      return v
  | "fromkeys" =>
    Arity.noNames what named
    Arity.between name 1 2 args []
    let keys ← Iterate.itemsOf c key
    let made ← withEntries [] (keys.map fun k => (k, args.getD 1 .none))
    make (.dict made)
  | _ =>
    let made ← gatherEntries c "update" entries args named
    put r (.dict made)
    return .none

/-! ## Sets -/

def setNames : List String := [
  "add", "clear", "copy", "difference", "difference_update", "discard", "intersection",
  "intersection_update", "isdisjoint", "issubset", "issuperset", "pop", "remove",
  "symmetric_difference", "symmetric_difference_update", "union", "update"]

/-- The methods of sets that cannot change. -/
def frozenNames : List String := [
  "copy", "difference", "intersection", "isdisjoint", "issubset", "issuperset",
  "symmetric_difference", "union"]

def membersFrom (items : List Value) : Act (List Value) := do
  let _ ← each Item.checkKey items
  let m ← look id
  return items.foldl (fun out v => m.addMember v out) []

/-- Members combined with those of several values. -/
def combine (op : BinaryOp) : List Value → List Value → Act (List Value)
  | items, [] => return items
  | items, v :: rest => do
    let more ← Iterate.itemsOf c v
    let more ← membersFrom more
    let m ← look id
    combine op ((Operate.ofMembers m op items more).getD items) rest

def ofSet (r : Ref) (frozen : Bool) (items : List Value) (name : String) (args : List Value)
    (named : Arity.Named) : Act Value := do
  let what := (if frozen then "frozenset." else "set.") ++ name
  Arity.noNames what named
  let put' (items : List Value) : Act Value := do
    put r (.set frozen items)
    return .none
  let other : Act (List Value) := do
    let v ← Arity.one what args named
    let more ← Iterate.itemsOf c v
    membersFrom more
  let m ← look id
  match name with
  | "add" =>
    let v ← Arity.one what args named
    Item.checkKey v
    put' (m.addMember v items)
  | "discard" =>
    let v ← Arity.one what args named
    Item.checkKey v
    put' (items.filter fun w => !m.equal w v)
  | "remove" =>
    let v ← Arity.one what args named
    Item.checkKey v
    if m.hasMember v items then put' (items.filter fun w => !m.equal w v)
    else raiseWith "KeyError" [v]
  | "pop" =>
    Arity.none what args named
    match Members.inOrder items with
    | v :: rest =>
      put r (.set frozen rest)
      return v
    | [] => raise "KeyError" "pop from an empty set"
  | "clear" =>
    Arity.none what args named
    put' []
  | "copy" =>
    Arity.none what args named
    make (.set frozen items)
  | "union" => do make (.set frozen (← combine c .bitOr items args))
  | "intersection" => do make (.set frozen (← combine c .bitAnd items args))
  | "difference" => do make (.set frozen (← combine c .sub items args))
  | "symmetric_difference" =>
    let more ← other
    make (.set frozen ((Operate.ofMembers m .bitXor items more).getD items))
  | "update" => do put' (← combine c .bitOr items args)
  | "intersection_update" => do put' (← combine c .bitAnd items args)
  | "difference_update" => do put' (← combine c .sub items args)
  | "symmetric_difference_update" =>
    let more ← other
    put' ((Operate.ofMembers m .bitXor items more).getD items)
  | "issubset" => do return .bool (m.within items (← other))
  | "issuperset" => do return .bool (m.within (← other) items)
  | _ => do
    let more ← other
    return .bool (!items.any fun v => m.hasMember v more)

end Userscript.Machine.Method
