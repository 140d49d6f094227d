import Userscript.Catalog.Database

/-!
# Userscript.Catalog.Store

The catalog, the settings and the run ledger, in memory or in a database, behind one interface.

A store may stand for one that cannot be reached: then reading the catalog or the settings, or
writing the ledger, answers the fault it was given. The clock counts the runs recorded, and tells the time of each.
-/

namespace Userscript.Catalog

structure Memory where
  scripts : List Script := []
  settings : Settings := {}
  runs : List (Int × RunRecord) := []

/-- Where a catalog is kept. -/
inductive Backend where
  | memory (m : Memory)
  | database (d : Database)
  /-- A database that cannot be opened, with the reason. -/
  | blocked (reason : String)

/-- The faults of a store that cannot be reached. -/
structure Outages where
  catalog : Option Fault := none
  settings : Option Fault := none
  record : Option Fault := none

def counting (n : Nat) : Json := .int n

/-- A store with its clock: how often it was read, and what it tells each time. -/
structure Store where
  backend : Backend
  outages : Outages := {}
  clock : Nat := 0
  time : Nat → Json := counting

namespace Store

/-- Work on a store; what it did before a fault stays done. -/
abbrev Work := ExceptT Fault (StateM Store)

/-- Work on the database of a store. -/
def onDatabase {α : Type} (d : Database) (work : Database.Work α) : Work α := do
  let (answer, d) := work.run.run d
  modify fun s => { s with backend := .database d }
  answer

/-- What a database that cannot be opened answers. -/
def blockedFault (reason : String) : Fault :=
  .unavailable ("Catalog database unavailable: " ++ reason)

def refuseOn (outage : Option Fault) : Work Unit :=
  match outage with
  | some f => throw f
  | none => return

def catalog : Work (List Script) := do
  let s ← get
  refuseOn s.outages.catalog
  match s.backend with
  | .memory m => return m.scripts
  | .database d => onDatabase d Database.catalog
  | .blocked reason => throw (blockedFault reason)

def settings : Work Settings := do
  let s ← get
  refuseOn s.outages.settings
  match s.backend with
  | .memory m => return m.settings
  | .database d => onDatabase d Database.settings
  | .blocked reason => throw (blockedFault reason)

def runs : Work (List (Int × RunRecord)) := do
  match (← get).backend with
  | .memory m => return m.runs
  | .database d => onDatabase d Database.runs
  | .blocked reason => throw (blockedFault reason)

/-- Replaces the catalog and gives it with its ids, or leaves it if two scripts share an id. -/
def saveScripts (scripts : List Script) : Work (List Script) := do
  match (← get).backend with
  | .memory m =>
    let scripts ← assignIds scripts
    modify fun s => { s with backend := .memory { m with scripts := scripts } }
    return scripts
  | .database d => onDatabase d (Database.saveScripts scripts)
  | .blocked reason =>
    let _ ← assignIds scripts
    throw (blockedFault reason)

/-- Appends a script and gives it with its id. -/
def addScript (script : Script) : Work Script := do
  let scripts ← catalog
  let saved ← saveScripts (scripts ++ [script])
  return saved.getLastD script

def saveSettings (settings : Settings) : Work Unit := do
  match (← get).backend with
  | .memory m =>
    let settings ← Settings.ofJson settings.toJson
    modify fun s => { s with backend := .memory { m with settings := settings } }
  | .database d => onDatabase d (Database.saveSettings settings)
  | .blocked reason => throw (blockedFault reason)

def tick : Work Json := do
  modify fun s => { s with clock := s.clock + 1 }
  let s ← get
  return s.time s.clock

def setRecord (id : Int) (r : RunRecord) :
    List (Int × RunRecord) → List (Int × RunRecord)
  | [] => [(id, r)]
  | (k, old) :: rest => if k = id then (k, r) :: rest else (k, old) :: setRecord id r rest

def recordRun (id : Int) (ok : Bool) (error : Json) : Work Unit := do
  let s ← get
  refuseOn s.outages.record
  match s.backend with
  | .memory m =>
    let old := ((m.runs.find? (·.1 = id)).map (·.2)).getD {}
    let now ← tick
    let m := { m with runs := setRecord id (old.afterRun now ok error) m.runs }
    modify fun s => { s with backend := .memory m }
  | .database d =>
    let old ← onDatabase d (Database.record? id)
    let now ← tick
    match (← get).backend with
    | .database d => onDatabase d (Database.putRecord id ((old.getD {}).afterRun now ok error))
    | _ => return
  | .blocked reason => throw (blockedFault reason)

/-- Closes a database; a store in memory stays as it is. -/
def close (s : Store) : Store :=
  match s.backend with
  | .database d => { s with backend := .database d.close }
  | _ => s

/-- A store in memory with the scripts and settings given. -/
def inMemory (scripts : List Script) (settings : Settings) : Except Fault Store :=
  (assignIds scripts).map fun scripts => { backend := .memory { scripts, settings } }

end Store
end Userscript.Catalog
