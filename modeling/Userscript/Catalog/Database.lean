import Userscript.Catalog.Ids
import Userscript.Catalog.RunRecord
import Userscript.Catalog.Settings
import Userscript.Json.Reader

/-!
# Userscript.Catalog.Database

The catalog in a database file.

A connection works on its own copy of the tables, which it took from the disk when it was opened. A
write that succeeds is committed: the copy goes to the disk. A write that fails leaves the copy where
it stopped, unless the database itself refused a row, which takes the copy back to the disk.
Closing drops what was not committed.

Data is kept as JSON text, and the database refuses text that is not JSON by the standard.
-/

namespace Userscript.Catalog

/-- A row of the catalog. The key is only a row key: a script's id is in its data. -/
structure Row where
  key : Int
  position : Int
  data : String
deriving DecidableEq

structure Tables where
  scripts : List Row := []
  runs : List (Int × String) := []
  settings : Fields String := []
deriving DecidableEq

/-- How a store stands to its file. -/
inductive Link where
  | closed
  /-- Open, with the tables as this connection sees them. -/
  | open (tables : Tables)
  /-- Closed behind the store's back. -/
  | lost

/-- A database file, a store on it, and the ids that the file refuses. -/
structure Database where
  disk : Tables := {}
  link : Link := .closed
  refused : List Int := []

namespace Database

/-- Work on a database; what it did before a fault stays done. -/
abbrev Work := ExceptT Fault (StateM Database)

/-- The key of the row that holds the settings. -/
def settingsKey : String := "musp_settings"

/-- The integers that a row key can be. -/
def inRange (n : Int) : Bool := -0x8000000000000000 ≤ n && n < 0x8000000000000000

/-- What is told of a row key that is too large. -/
def tooLarge : Fault := .outOfRange "Python int too large to convert to SQLite INTEGER"

/-- What is told of an integer that has too many digits to be written. -/
def unwritable : Fault := .badValue Number.NumeralFault.unwritable.message

/-- Whether a text may be stored as JSON. -/
def isStored (text : String) : Bool :=
  match Json.read false text with
  | .ok v => v.isStandard
  | .error _ => false

/-- Stored text as data. -/
def load (text : String) : Except Fault Json :=
  match Json.read true text with
  | .ok v => .ok v
  | .error (.at _) => .error .undecodable
  | .error (.integer n) => .error (.badValue (Number.NumeralFault.tooManyDigits n).message)

/-- Opens the connection unless there is one, and gives the tables that it sees. A connection that
was lost is not opened again. -/
def tables (whenLost : Fault) : Work Tables := do
  let db ← get
  match db.link with
  | .open t => return t
  | .lost => throw whenLost
  | .closed =>
    set { db with link := .open db.disk }
    return db.disk

def readLost : Fault := .unavailable "Catalog read failed: no active connection"

/-- What a write answers when the connection is lost. -/
def writeLost : Fault := .badValue "no active connection"

/-- Changes the tables that the connection sees. -/
def change (f : Tables → Tables) : Work Unit :=
  modify fun db => match db.link with
    | .open t => { db with link := .open (f t) }
    | _ => db

/-- Brings what the connection sees to the disk. -/
def commit : Work Unit :=
  modify fun db => match db.link with
    | .open t => { db with disk := t }
    | _ => db

/-- Takes the connection back to what is on the disk. -/
def rollback : Work Unit :=
  modify fun db => match db.link with
    | .open _ => { db with link := .open db.disk }
    | _ => db

def setRun (id : Int) (data : String) : List (Int × String) → List (Int × String)
  | [] => [(id, data)]
  | (k, d) :: rest => if k = id then (id, data) :: rest else (k, d) :: setRun id data rest

/-- The order of catalog rows: by position, then by key. -/
def before (a b : Row) : Bool :=
  a.position < b.position || (a.position = b.position && a.key ≤ b.key)

def catalog : Work (List Script) := do
  let t ← tables readLost
  (t.scripts.mergeSort before).mapM fun row => do Script.ofJson (← load row.data)

/-- The settings, with defaults if none are stored. -/
def settings : Work Settings := do
  let t ← tables readLost
  match Fields.get? settingsKey t.settings with
  | none => return {}
  | some text => Settings.ofJson (← load text)

def runs : Work (List (Int × RunRecord)) := do
  let t ← tables readLost
  (t.runs.mergeSort fun a b => a.1 ≤ b.1).mapM fun (id, text) => do
    return (id, ← RunRecord.ofJson (← load text))

/-- Data as it is stored, unless it holds an integer with too many digits. -/
def textOf (v : Json) : Except Fault String :=
  if (Datum.ofJson v).isWritable then .ok v.text else .error unwritable

/-- The rows of scripts in catalog order, the first one at `position`. -/
def rowsOf (position : Nat) : List Script → Except Fault (List Row)
  | [] => .ok []
  | s :: rest => do
    let data ← textOf s.toJson
    return ⟨s.id.getD 0, position, data⟩ :: (← rowsOf (position + 1) rest)

def insertRow (row : Row) : Work Unit := do
  if !inRange row.key then throw tooLarge
  if !isStored row.data || (← get).refused.contains row.key then throw .refusedRow
  change fun t => { t with scripts := t.scripts ++ [row] }

/-- Inserts rows of the catalog up to the first that fails. -/
def insertRows : List Row → Work Unit
  | [] => return
  | row :: rest => do
    insertRow row
    insertRows rest

/-- Replaces the catalog. A row that the database refuses takes the connection back to the disk; an
id out of range, or data that cannot be written, leaves it where the writing stopped. -/
def saveScripts (scripts : List Script) : Work (List Script) := do
  let scripts ← assignIds scripts
  let _ ← tables writeLost
  change fun t => { t with scripts := [] }
  let rows ← rowsOf 0 scripts
  try insertRows rows
  catch
    | .refusedRow => rollback; throw .refusedRow
    | e => throw e
  commit
  return scripts

def saveSettings (s : Settings) : Work Unit := do
  let _ ← tables writeLost
  let text ← textOf (← Settings.ofJson s.toJson).toJson
  if !isStored text then throw .refusedRow
  change fun t => { t with settings := Fields.set settingsKey text t.settings }
  commit

def recordText (r : RunRecord) : Except Fault String :=
  match (Entries.toDatum r.toEntries).toJson with
  | .ok v => .ok v.text
  | .error e => .error (if e.isKind then .wrongKind else .badValue e.message)

/-- The record of a script, if there is one. -/
def record? (id : Int) : Work (Option RunRecord) := do
  let t ← tables writeLost
  if !inRange id then throw tooLarge
  match t.runs.find? (·.1 = id) with
  | none => return none
  | some (_, text) => some <$> RunRecord.ofJson (← load text)

def putRecord (id : Int) (r : RunRecord) : Work Unit := do
  let text ← recordText r
  if !isStored text then throw .refusedRow
  change fun t => { t with runs := setRun id text t.runs }
  commit

/-- Drops the connection with what it did not commit. -/
def close (db : Database) : Database := { db with link := .closed }

/-- The connection is closed without the store's knowledge. -/
def lose (db : Database) : Database := { db with link := .lost }

/-- A row written past the store. -/
inductive RawRow where
  | script (key position : Int) (data : String)
  | run (id : Int) (data : String)
  | setting (key data : String)

def putRaw (row : RawRow) : Work Unit := do
  let _ ← tables writeLost
  match row with
  | .script key position data =>
    if !inRange key || !inRange position then throw tooLarge
    if !isStored data || (← get).refused.contains key then throw .refusedRow
    change fun t =>
      { t with scripts := t.scripts.filter (·.key ≠ key) ++ [⟨key, position, data⟩] }
  | .run id data =>
    if !inRange id then throw tooLarge
    if !isStored data then throw .refusedRow
    change fun t => { t with runs := setRun id data t.runs }
  | .setting key data =>
    if !isStored data then throw .refusedRow
    change fun t => { t with settings := Fields.set key data t.settings }
  commit

end Database
end Userscript.Catalog
