import Userscript.Catalog.Store
import Userscript.Proofs.Catalog.Connection

/-!
# Userscript.Proofs.Catalog.Reading

What a reader gets of a store, and that reading changes nothing of it.

A read may open the connection of a database, and that is all that it may do: whoever reads again gets the same.
The ledger is kept apart from what is read.

* `Store.catalogIn` and `Store.settingsIn` are the answers of the two reads;
* `Store.alike_catalog` and `Store.alike_settings`: after a read a reader gets the same;
* `Store.alike_recordRun`: so it is after a run was recorded.
-/

namespace Userscript.Catalog

namespace Store

def catalogIn (s : Store) : Except Fault (List Script) := (runOn catalog s).1

/-- The settings as a reader gets them. -/
def settingsIn (s : Store) : Except Fault Settings := (runOn settings s).1

/-- A store after a read. -/
def touched (s : Store) : Store :=
  match s.backend with
  | .database d => { s with backend := .database d.touched }
  | _ => s

theorem after_catalog (s : Store) : (runOn catalog s).2 = s ∨ (runOn catalog s).2 = s.touched := by
  obtain ⟨backend, ⟨outage, other, record⟩, clock, time⟩ := s
  cases outage with
  | some f => exact .inl rfl
  | none =>
    cases backend with
    | memory m => exact .inl rfl
    | blocked reason => exact .inl rfl
    | database d =>
      right
      have after : (runOn Database.catalog d).2 = d.touched := by rw [Database.runOn_catalog_read]
      exact congrArg (fun d => (⟨.database d, ⟨none, other, record⟩, clock, time⟩ : Store)) after

theorem after_settings (s : Store) : (runOn settings s).2 = s ∨ (runOn settings s).2 = s.touched := by
  obtain ⟨backend, ⟨other, outage, record⟩, clock, time⟩ := s
  cases outage with
  | some f => exact .inl rfl
  | none =>
    cases backend with
    | memory m => exact .inl rfl
    | blocked reason => exact .inl rfl
    | database d =>
      right
      have after : (runOn Database.settings d).2 = d.touched := by rw [Database.runOn_settings_read]
      exact congrArg (fun d => (⟨.database d, ⟨other, none, record⟩, clock, time⟩ : Store)) after

theorem catalogIn_touched (s : Store) : s.touched.catalogIn = s.catalogIn := by
  obtain ⟨backend, ⟨outage, other, record⟩, clock, time⟩ := s
  cases backend with
  | memory m => rfl
  | blocked reason => rfl
  | database d =>
    cases outage with
    | some f => rfl
    | none =>
      have again : (runOn Database.catalog d.touched).1 = (runOn Database.catalog d).1 := by
        rw [Database.runOn_catalog_read, Database.runOn_catalog_read, Database.tables_touched]
      exact again

theorem settingsIn_touched (s : Store) : s.touched.settingsIn = s.settingsIn := by
  obtain ⟨backend, ⟨other, outage, record⟩, clock, time⟩ := s
  cases backend with
  | memory m => rfl
  | blocked reason => rfl
  | database d =>
    cases outage with
    | some f => rfl
    | none =>
      have again : (runOn Database.settings d.touched).1 = (runOn Database.settings d).1 := by
        rw [Database.runOn_settings_read, Database.runOn_settings_read, Database.tables_touched]
      exact again

/-- Two stores of which a reader gets the same. -/
def Alike (s t : Store) : Prop := t.catalogIn = s.catalogIn ∧ t.settingsIn = s.settingsIn

theorem Alike.trans {s t u : Store} (h : s.Alike t) (h' : t.Alike u) : s.Alike u :=
  ⟨h'.1.trans h.1, h'.2.trans h.2⟩

theorem alike_of_read {s t : Store} (h : t = s ∨ t = s.touched) : s.Alike t := by
  rcases h with rfl | rfl
  · exact ⟨rfl, rfl⟩
  · exact ⟨s.catalogIn_touched, s.settingsIn_touched⟩

theorem alike_catalog (s : Store) : s.Alike (runOn catalog s).2 := alike_of_read s.after_catalog

theorem alike_settings (s : Store) : s.Alike (runOn settings s).2 := alike_of_read s.after_settings

/-! ## Records -/

section Records

variable (d : Database) (missing lacking : Option Fault) (clock : Nat) (time : Nat → Json) (id : Int) (ok : Bool)
  (error : Json)

/-- On a database a run is recorded in two steps, with a tick of the clock between them. -/
theorem runOn_recordRun_database :
    runOn (recordRun id ok error) ⟨.database d, ⟨missing, lacking, none⟩, clock, time⟩ =
      match runOn (Database.record? id) d with
      | (.error f, e) => (.error f, ⟨.database e, ⟨missing, lacking, none⟩, clock, time⟩)
      | (.ok old, e) =>
        let work := Database.putRecord id ((old.getD {}).afterRun (time (clock + 1)) ok error)
        ((runOn work e).1, ⟨.database (runOn work e).2, ⟨missing, lacking, none⟩, clock + 1, time⟩) := by
  have h : runOn (recordRun id ok error) ⟨.database d, ⟨missing, lacking, none⟩, clock, time⟩ =
      runOn (onDatabase d (Database.record? id) >>= fun old => tick >>= fun now => get >>= fun s =>
        match s.backend with
        | .database e => onDatabase e (Database.putRecord id ((old.getD {}).afterRun now ok error))
        | _ => pure ()) ⟨.database d, ⟨missing, lacking, none⟩, clock, time⟩ := rfl
  have first : runOn (onDatabase d (Database.record? id)) ⟨.database d, ⟨missing, lacking, none⟩, clock, time⟩ =
      ((runOn (Database.record? id) d).1,
        ⟨.database (runOn (Database.record? id) d).2, ⟨missing, lacking, none⟩, clock, time⟩) := rfl
  rw [h, runOn_bind, first]
  rcases runOn (Database.record? id) d with ⟨_ | old, e⟩ <;> rfl

variable {d}

theorem alike_of_seen {e : Database} (hd : d.Live) (he : e.Live) (scripts : e.seen.scripts = d.seen.scripts)
    (settings : e.seen.settings = d.seen.settings) (later : Nat) :
    Alike ⟨.database d, ⟨missing, lacking, none⟩, clock, time⟩
      ⟨.database e, ⟨missing, lacking, none⟩, later, time⟩ := by
  constructor
  · cases missing with
    | some f => rfl
    | none =>
      have again : (runOn Database.catalog e).1 = (runOn Database.catalog d).1 := by
        rw [Database.runOn_catalog he, Database.runOn_catalog hd, scripts]
      exact again
  · cases lacking with
    | some f => rfl
    | none =>
      have again : (runOn Database.settings e).1 = (runOn Database.settings d).1 := by
        rw [Database.runOn_settings he, Database.runOn_settings hd, Database.settingsIn, Database.settingsIn, settings]
      exact again

theorem alike_recordRun_database :
    Alike ⟨.database d, ⟨missing, lacking, none⟩, clock, time⟩
      (runOn (recordRun id ok error) ⟨.database d, ⟨missing, lacking, none⟩, clock, time⟩).2 := by
  rw [runOn_recordRun_database]
  by_cases live : d.Live
  · have seen {e : Database} (he : e.Live) (scripts : e.seen.scripts = d.seen.scripts)
        (settings : e.seen.settings = d.seen.settings) (later : Nat) :=
      alike_of_seen missing lacking clock time live he scripts settings later
    rw [Database.runOn_record? live]
    cases (if Database.inRange id then Database.recordIn id d.seen else .error Database.tooLarge) with
    | error f => exact seen d.live_opened rfl rfl clock
    | ok old =>
      dsimp only
      rw [Database.opened, Database.runOn_putRecord]
      -- The row of the record is all that a commit adds; without one the connection stays as it was opened.
      split
      · exact seen d.live_opened rfl rfl (clock + 1)
      · split
        · refine seen (d.live_committed _) ?_ ?_ (clock + 1) <;> rfl
        · exact seen d.live_opened rfl rfl (clock + 1)
  · obtain ⟨disk, link, refused⟩ := d
    obtain rfl : link = .lost := not_not.mp live
    exact ⟨rfl, rfl⟩

end Records

/-- A reader gets the same after a run was recorded, or could not be. -/
theorem alike_recordRun (s : Store) (id : Int) (ok : Bool) (error : Json) :
    s.Alike (runOn (recordRun id ok error) s).2 := by
  obtain ⟨backend, ⟨missing, lacking, outage⟩, clock, time⟩ := s
  cases outage with
  | some f => exact ⟨rfl, rfl⟩
  | none =>
    cases backend with
    | memory m =>
      constructor
      · cases missing <;> rfl
      · cases lacking <;> rfl
    | blocked reason => exact ⟨rfl, rfl⟩
    | database d => exact alike_recordRun_database missing lacking clock time id ok error

end Store

end Userscript.Catalog
