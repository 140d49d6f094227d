import Userscript.Proofs.Catalog.Reading

/-!
# Userscript.Proofs.Catalog.History

What is asked of a store, call after call.

`Store.perform` is one call with its answer, `Store.after` the store that a history of calls leaves,
and `Store.transcript` the calls with their answers. For a store on a database each call has an
equation in terms of `Database.seen` (`perform_catalog` and so on), so that proofs about histories
never open an operation.
-/

namespace Userscript.Catalog

/-- The database once it refuses rows of an id. -/
def Database.refuse (id : Int) (d : Database) : Database := { d with refused := id :: d.refused }

namespace Store

/-- What is asked of a store, or happens to it. -/
inductive Call where
  | save (scripts : List Script)
  | add (script : Script)
  | catalog
  | saveSettings (settings : Settings)
  | settings
  | record (id : Int) (ok : Bool) (error : Json)
  | runs
  /-- The store is closed; the next call opens it again. -/
  | reopen
  /-- From now on the database refuses catalog rows of an id. -/
  | refuse (id : Int)

/-- Whether a call writes the catalog. -/
def Call.isSave : Call → Bool
  | .save _ | .add _ => true
  | _ => false

inductive Answer where
  | done
  | scripts (scripts : List Script)
  | script (script : Script)
  | settings (settings : Settings)
  | runs (runs : List (Int × RunRecord))

/-- The store once its database refuses rows of an id. -/
def refuse (id : Int) (s : Store) : Store :=
  match s.backend with
  | .database d => { s with backend := .database (d.refuse id) }
  | _ => s

def answer : Call → Work Answer
  | .save scripts => .scripts <$> saveScripts scripts
  | .add script => .script <$> addScript script
  | .catalog => .scripts <$> Store.catalog
  | .saveSettings settings => (fun _ => .done) <$> Store.saveSettings settings
  | .settings => .settings <$> Store.settings
  | .record id ok error => (fun _ => .done) <$> recordRun id ok error
  | .runs => .runs <$> Store.runs
  | .reopen => (fun _ => .done) <$> (modify close : Work Unit)
  | .refuse id => (fun _ => .done) <$> (modify (refuse id) : Work Unit)

def perform (c : Call) (s : Store) : Except Fault Answer × Store := runOn (answer c) s

def after : List Call → Store → Store
  | [], s => s
  | c :: rest, s => after rest (perform c s).2

def transcript : List Call → Store → List (Call × Except Fault Answer)
  | [], _ => []
  | c :: rest, s => (c, (perform c s).1) :: transcript rest (perform c s).2

/-! ## A store on a database -/

/-- A store on a database that can be reached. -/
def upon (d : Database) (clock : Nat) (time : Nat → Json := counting) : Store :=
  { backend := .database d, clock, time }

/-- A store on a file that nobody has opened yet. -/
def onFile (file : Tables) (clock : Nat) (time : Nat → Json := counting) : Store :=
  upon { disk := file } clock time

section Over

variable {d : Database} (hd : d.Live) (n : Nat) (time : Nat → Json)

theorem runOn_catalog_upon :
    runOn Store.catalog (upon d n time) =
      ((runOn Database.catalog d).1, upon (runOn Database.catalog d).2 n time) := rfl

theorem runOn_saveScripts_upon (scripts : List Script) :
    runOn (saveScripts scripts) (upon d n time) =
      ((runOn (Database.saveScripts scripts) d).1,
        upon (runOn (Database.saveScripts scripts) d).2 n time) := rfl

/-- A run is recorded in two steps with a tick of the clock between them. -/
theorem runOn_recordRun_upon (id : Int) (ok : Bool) (error : Json) :
    runOn (recordRun id ok error) (upon d n time) =
      match runOn (Database.record? id) d with
      | (.error f, e) => (.error f, upon e n time)
      | (.ok old, e) =>
        let work := Database.putRecord id ((old.getD {}).afterRun (time (n + 1)) ok error)
        ((runOn work e).1, upon (runOn work e).2 (n + 1) time) :=
  runOn_recordRun_database d none none n time id ok error

theorem perform_save (scripts : List Script) :
    perform (.save scripts) (upon d n time) =
      ((runOn (Database.saveScripts scripts) d).1.map .scripts,
        upon (runOn (Database.saveScripts scripts) d).2 n time) := by
  rw [perform, answer, runOn_map, runOn_saveScripts_upon]

include hd

theorem perform_catalog :
    perform .catalog (upon d n time) =
      ((Database.scriptsIn d.seen.scripts).map .scripts, upon d.opened n time) := by
  rw [perform, answer, runOn_map, runOn_catalog_upon, Database.runOn_catalog hd]

theorem perform_settings :
    perform .settings (upon d n time) =
      ((Database.settingsIn d.seen).map .settings, upon d.opened n time) := by
  have h : runOn Store.settings (upon d n time) =
      ((runOn Database.settings d).1, upon (runOn Database.settings d).2 n time) := rfl
  rw [perform, answer, runOn_map, h, Database.runOn_settings hd]

theorem perform_runs :
    perform .runs (upon d n time) = ((Database.ledgerIn d.seen).map .runs, upon d.opened n time) := by
  have h : runOn Store.runs (upon d n time) =
      ((runOn Database.runs d).1, upon (runOn Database.runs d).2 n time) := rfl
  rw [perform, answer, runOn_map, h, Database.runOn_runs hd]

theorem perform_saveSettings (settings : Settings) :
    perform (.saveSettings settings) (upon d n time) =
      match Database.settingsText settings with
      | .error f => (.error f, upon d.opened n time)
      | .ok text =>
        if Database.isStored text then
          (.ok .done, upon (d.committed { d.seen with
            settings := Fields.set Database.settingsKey text d.seen.settings }) n time)
        else (.error .refusedRow, upon d.opened n time) := by
  have h : runOn (Store.saveSettings settings) (upon d n time) =
      ((runOn (Database.saveSettings settings) d).1,
        upon (runOn (Database.saveSettings settings) d).2 n time) := rfl
  rw [perform, answer, runOn_map, h, Database.runOn_saveSettings hd]
  cases Database.settingsText settings with
  | error f => rfl
  | ok text => cases h : Database.isStored text <;> simp [h, Except.map]

theorem perform_record (id : Int) (ok : Bool) (error : Json) :
    perform (.record id ok error) (upon d n time) =
      if Database.inRange id then
        match Database.recordIn id d.seen with
        | .error f => (.error f, upon d.opened n time)
        | .ok old =>
          match Database.recordText ((old.getD {}).afterRun (time (n + 1)) ok error) with
          | .error f => (.error f, upon d.opened (n + 1) time)
          | .ok text =>
            if Database.isStored text then
              (.ok .done, upon (d.committed { d.seen with
                runs := Database.setRun id text d.seen.runs }) (n + 1) time)
            else (.error .refusedRow, upon d.opened (n + 1) time)
      else (.error Database.tooLarge, upon d.opened n time) := by
  rw [perform, answer, runOn_map, runOn_recordRun_upon, Database.runOn_record? hd]
  cases Database.inRange id with
  | false => rfl
  | true =>
    simp only [if_true]
    cases Database.recordIn id d.seen with
    | error f => rfl
    | ok old =>
      dsimp only
      rw [Database.opened, Database.runOn_putRecord]
      cases Database.recordText ((old.getD {}).afterRun (time (n + 1)) ok error) with
      | error f => rfl
      | ok text => cases h : Database.isStored text <;> simp [h, Except.map]

theorem perform_add (script : Script) :
    perform (.add script) (upon d n time) =
      match Database.scriptsIn d.seen.scripts with
      | .error f => (.error f, upon d.opened n time)
      | .ok scripts =>
        ((runOn (Database.saveScripts (scripts ++ [script])) d.opened).1.map
            fun saved => .script (saved.getLastD script),
          upon (runOn (Database.saveScripts (scripts ++ [script])) d.opened).2 n time) := by
  rw [perform, answer, runOn_map, addScript, runOn_bind, runOn_catalog_upon,
    Database.runOn_catalog hd]
  cases Database.scriptsIn d.seen.scripts with
  | error f => rfl
  | ok scripts =>
    dsimp only
    rw [runOn_bind, runOn_saveScripts_upon]
    rcases runOn (Database.saveScripts (scripts ++ [script])) d.opened with ⟨_ | _, _⟩ <;> rfl

end Over

@[simp] theorem perform_reopen (d : Database) (n : Nat) (time : Nat → Json) :
    perform .reopen (upon d n time) = (.ok .done, upon d.close n time) := rfl

@[simp] theorem perform_refuse (d : Database) (n : Nat) (time : Nat → Json) (id : Int) :
    perform (.refuse id) (upon d n time) = (.ok .done, upon (d.refuse id) n time) := rfl

end Store
end Userscript.Catalog
