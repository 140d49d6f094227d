import Userscript.Catalog.Script

/-!
# Userscript.Catalog.Ids

Ids of scripts. Those that scripts have are kept and must differ; scripts without one get the
integers after the largest, in list order.
-/

namespace Userscript.Catalog

/-- The first id that was seen before, in list order. -/
def duplicate? (seen : List Int) : List (Option Int) → Option Int
  | [] => none
  | none :: rest => duplicate? seen rest
  | some n :: rest => if seen.contains n then some n else duplicate? (n :: seen) rest

/-- The largest id there is; 0 if there is none. -/
def largest : List (Option Int) → Int
  | [] => 0
  | ids => match ids.filterMap id with
    | [] => 0
    | n :: rest => rest.foldl max n

/-- Gives the ids after `last` to those that have none. -/
def fill (last : Int) : List (Option Int) → List Int
  | [] => []
  | some n :: rest => n :: fill last rest
  | none :: rest => (last + 1) :: fill (last + 1) rest

/-- The ids of a list of scripts once all have one, unless two share one. -/
def assign (ids : List (Option Int)) : Except Fault (List Int) :=
  match duplicate? [] ids with
  | some n => .error (.duplicateId (.int n))
  | none => .ok (fill (largest ids) ids)

def assignIds (scripts : List Script) : Except Fault (List Script) :=
  (assign (scripts.map (·.id))).map fun ids =>
    (scripts.zip ids).map fun (s, n) => { s with id := some n }

end Userscript.Catalog
