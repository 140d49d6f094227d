import Userscript.Catalog.Database

/-!
# Userscript.Catalog.Archive

The tables of a catalog as one JSON value, which a file can hold.

Rows are objects; whatever is no row of a table is left out when a value is read.
-/

namespace Userscript.Catalog.Tables

def toJson (t : Tables) : Json :=
  .obj [("scripts", .arr (t.scripts.map fun r =>
      .obj [("id", .int r.key), ("position", .int r.position), ("data", .str r.data)])),
    ("runs", .arr (t.runs.map fun (id, data) => .obj [("id", .int id), ("data", .str data)])),
    ("settings", .obj (t.settings.map fun (key, data) => (key, .str data)))]

def itemsIn (name : String) (fields : Fields Json) : List Json :=
  match Json.field name fields with
  | .arr items => items
  | _ => []

def row? : Json → Option Row
  | .obj fields =>
    match Json.field "id" fields, Json.field "position" fields, Json.field "data" fields with
    | .int key, .int position, .str data => some ⟨key, position, data⟩
    | _, _, _ => none
  | _ => none

def run? : Json → Option (Int × String)
  | .obj fields =>
    match Json.field "id" fields, Json.field "data" fields with
    | .int id, .str data => some (id, data)
    | _, _ => none
  | _ => none

def setting? : String × Json → Option (String × String)
  | (key, .str data) => some (key, data)
  | _ => none

def ofJson : Json → Tables
  | .obj fields => {
    scripts := (itemsIn "scripts" fields).filterMap row?
    runs := (itemsIn "runs" fields).filterMap run?
    settings := match Json.field "settings" fields with
      | .obj settings => settings.filterMap setting?
      | _ => [] }
  | _ => {}

end Userscript.Catalog.Tables
