import Userscript.Catalog.Script

/-!
# Userscript.Catalog.RunRecord

What the ledger knows of a script's last run. Fields of a stored record other than the time and the
error of the last run are kept as they are.
-/

namespace Userscript

/-- Entries whose keys need not be text. -/
abbrev Entries := List (Json × Json)

namespace Entries

/-- The number that a key counts as among keys, if it counts as one. -/
def numeric? : Json → Option Binary64
  | .bool b => some (Binary64.ofRatio false (if b then 1 else 0) 1)
  | .num x => some x
  | _ => none

/-- The integer that a key counts as among keys, if it counts as one. -/
def integer? : Json → Option Int
  | .bool b => some (if b then 1 else 0)
  | .int n => some n
  | .num x => x.integral?
  | _ => none

/-- Whether two keys are one: equal text, equal numbers, or both null. -/
def sameKey (a b : Json) : Bool :=
  match a, b with
  | .str s, .str t => s = t
  | .null, .null => true
  | a, b =>
    match integer? a, integer? b with
    | some m, some n => m = n
    | none, none =>
      match numeric? a, numeric? b with
      | some x, some y => x.compare? y = some .eq
      | _, _ => false
    | _, _ => false

/-- Sets an entry: at its place if there is one of the key, else at the end. -/
def set (key value : Json) : Entries → Entries
  | [] => [(key, value)]
  | (k, v) :: rest => if sameKey k key then (k, value) :: rest else (k, v) :: set key value rest

def named? (name : String) (entries : Entries) : Option Json :=
  (entries.find? fun e => sameKey e.1 (.str name)).map (·.2)

def without (name : String) (entries : Entries) : Entries :=
  entries.filter fun e => !sameKey e.1 (.str name)

/-- A pair from the item of a list of pairs. -/
def pairOf (index : Nat) (v : Json) : Except Fault (Json × Json) :=
  match v.items with
  | .error e => .error e
  | .ok [.arr _, _] => .error .wrongKind
  | .ok [.obj _, _] => .error .wrongKind
  | .ok [k, w] => .ok (k, w)
  | .ok items =>
    .error (.badValue ("dictionary update sequence element #" ++ toString index ++
      " has length " ++ toString items.length ++ "; 2 is required"))

/-- Entries from a list of pairs; of pairs with one key the last counts. -/
def ofPairs (index : Nat) (entries : Entries) : List Json → Except Fault Entries
  | [] => .ok entries
  | v :: rest =>
    match pairOf index v with
    | .error e => .error e
    | .ok (k, w) => ofPairs (index + 1) (set k w entries) rest

/-- Entries from data: those of an object, or a list of pairs. What counts as absent has none. -/
def ofJson (v : Json) : Except Fault Entries :=
  if !v.truthy then .ok []
  else match v with
    | .obj fields => .ok (fields.map fun f => (.str f.1, f.2))
    | v =>
      match v.items with
      | .error e => .error e
      | .ok items => ofPairs 0 [] items

/-- Entries as a script or a message shows them. -/
def toDatum (entries : Entries) : Datum :=
  .dict (entries.map fun e => (Datum.ofJson e.1, Datum.ofJson e.2))

end Entries

/-- The ledger's record of a script. -/
structure RunRecord where
  lastRunTime : Json := .null
  lastError : Json := .null
  extra : Entries := []

namespace RunRecord

def ofJson (v : Json) : Except Fault RunRecord :=
  (Entries.ofJson v).map fun entries => {
    lastRunTime := (Entries.named? "lastRunTime" entries).getD .null
    lastError := (Entries.named? "lastError" entries).getD .null
    extra := Entries.without "lastError" (Entries.without "lastRunTime" entries) }

/-- A record's entries: what it keeps for others, then its own fields. -/
def toEntries (r : RunRecord) : Entries :=
  Entries.set (.str "lastError") r.lastError
    (Entries.set (.str "lastRunTime") r.lastRunTime r.extra)

/-- The text of an error as the ledger keeps it. -/
def errorText (error : Json) : String := (error.orElse (.str "Unknown error")).display

/-- A record after another run at the time `now`: its time, and its error unless it went well. -/
def afterRun (r : RunRecord) (now : Json) (ok : Bool) (error : Json) : RunRecord :=
  { r with
    lastRunTime := now
    lastError := if ok then .null else .str (errorText error) }

end RunRecord
end Userscript
