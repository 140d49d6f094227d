import Userscript.Catalog.RunRecord

/-!
# Userscript.Catalog.Ids.Given

Ids as they are given, which need not be integers: numbers and texts are ids too, and truth values
count as the numbers one and zero. Null stands for a missing id.

The rule is that of `Catalog.assign`: ids must differ, and missing ones follow the largest. What has
no order or no successor is refused.
-/

namespace Userscript.Catalog.Given

/-- The order of two ids, if they have one: whether the first is above the second. -/
def above (a b : Json) : Except Fault Bool :=
  match a, b with
  | .str s, .str t => .ok (t < s)
  | a, b =>
    match Entries.integer? a, Entries.integer? b with
    | some m, some n => .ok (n < m)
    | some m, none =>
      match b with
      | .num y => .ok (y.compareInt? m = some .lt)
      | _ => .error .wrongKind
    | none, some n =>
      match a with
      | .num x => .ok (x.compareInt? n = some .gt)
      | _ => .error .wrongKind
    | none, none =>
      match a, b with
      | .num x, .num y => .ok (x.compare? y = some .gt)
      | _, _ => .error .wrongKind

/-- The first of the largest ids; 0 if there is none. -/
def largest : List Json → Except Fault Json
  | [] => .ok (.int 0)
  | first :: rest => rest.foldlM (fun top v => do return if ← above v top then v else top) first

def next : Json → Except Fault Json
  | .num x => .ok (.num (.ofFloat (x.toFloat + 1)))
  | v =>
    match Entries.integer? v with
    | some n => .ok (.int (n + 1))
    | none => .error .wrongKind

/-- Refuses an id that was seen before, or that cannot be told apart from others. -/
def distinct (seen : List Json) : List Json → Except Fault Unit
  | [] => .ok ()
  | v :: rest =>
    match v with
    | .null => distinct seen rest
    | .arr _ | .obj _ => .error .wrongKind
    | v =>
      if seen.any (Entries.sameKey v) then .error (.duplicateId v) else distinct (v :: seen) rest

/-- Gives the ids after `last` to those that have none. -/
def fill (last : Json) : List Json → Except Fault (List Json)
  | [] => .ok []
  | .null :: rest => do
    let n ← next last
    return n :: (← fill n rest)
  | v :: rest => do return v :: (← fill last rest)

def assign (ids : List Json) : Except Fault (List Json) := do
  distinct [] ids
  let last ← largest (ids.filter fun
    | .null => false
    | _ => true)
  fill last ids

end Userscript.Catalog.Given
