import Userscript.Number.Binary64

/-!
# Userscript.Json.Value

Data as it is stored and sent: null, truth values, integers of any size, numbers, text, lists, and
objects whose fields keep the order in which they were first set.

* `Fields.get?`, `Fields.set` and `Fields.erase` are the operations on the fields of an object.
* `Json.truthy` is the test by which missing and empty data count as absent.
-/

namespace Userscript

/-- A value of the wire format. -/
inductive Json where
  | null
  | bool (b : Bool)
  | int (n : Int)
  | num (x : Binary64)
  | str (s : String)
  | arr (items : List Json)
  | obj (fields : List (String × Json))
deriving Inhabited

/-- Fields by name, in the order in which the names were first set. -/
abbrev Fields (α : Type) := List (String × α)

namespace Fields

variable {α : Type}

def get? (name : String) : Fields α → Option α
  | [] => none
  | (k, v) :: rest => if k = name then some v else get? name rest

/-- Sets a field: at its place if there is one of the name, else at the end. -/
def set (name : String) (value : α) : Fields α → Fields α
  | [] => [(name, value)]
  | (k, v) :: rest => if k = name then (k, value) :: rest else (k, v) :: set name value rest

/-- The fields without the one of the name. -/
def erase (name : String) (fields : Fields α) : Fields α :=
  fields.filter (·.1 ≠ name)

def ofPairs (pairs : List (String × α)) : Fields α :=
  pairs.foldl (fun fields p => set p.1 p.2 fields) []

theorem get?_set_self (name : String) (value : α) (fields : Fields α) :
    get? name (set name value fields) = some value := by
  induction fields with
  | nil => simp [set, get?]
  | cons p rest ih =>
    obtain ⟨k, v⟩ := p
    by_cases h : k = name <;> simp [set, get?, h, ih]

theorem get?_set_of_ne {name other : String} (value : α) (fields : Fields α) (h : other ≠ name) :
    get? other (set name value fields) = get? other fields := by
  induction fields with
  | nil => simp [set, get?, Ne.symm h]
  | cons p rest ih =>
    obtain ⟨k, v⟩ := p
    by_cases hk : k = name
    · subst hk; simp [set, get?, Ne.symm h]
    · by_cases ho : k = other
      · subst ho; simp [set, get?, hk]
      · simp [set, get?, hk, ho, ih]

end Fields

namespace Json

/-- Whether data counts as present: null, false, zero and everything empty do not. -/
def truthy : Json → Bool
  | .null => false
  | .bool b => b
  | .int n => n ≠ 0
  | .num x => !x.isZero
  | .str s => s ≠ ""
  | .arr items => !items.isEmpty
  | .obj fields => !fields.isEmpty

/-- The value of a field of an object; null if there is none. -/
def field (name : String) (fields : Fields Json) : Json :=
  (Fields.get? name fields).getD .null

/-- The first value, unless it counts as absent. -/
def orElse (first second : Json) : Json :=
  if first.truthy then first else second

end Json
end Userscript
