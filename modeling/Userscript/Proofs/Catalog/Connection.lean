import Mathlib.Data.List.TakeWhile
import Userscript.Catalog.Database
import Userscript.Proofs.Work

/-!
# Userscript.Proofs.Catalog.Connection

What each operation on a database answers, and what it leaves on the disk and in the connection.

The connection sees `seen`; an operation that only reads leaves the database `opened`, a write that
is not committed leaves it `holding` other tables than the disk, and a commit leaves it `committed`,
with the same tables in both places. `runOn_saveScripts` names all ways in which a save can end.
-/

namespace Userscript.Catalog.Database

/-! ## What the connection sees -/

def seen (d : Database) : Tables :=
  match d.link with
  | .open t => t
  | _ => d.disk

def Live (d : Database) : Prop := d.link ≠ .lost

/-- The database with an open connection that sees other tables than it may find on the disk. -/
def holding (t : Tables) (d : Database) : Database := { d with link := .open t }

def opened (d : Database) : Database := d.holding d.seen

/-- The database once tables are on its disk. -/
def committed (t : Tables) (d : Database) : Database := { d with disk := t, link := .open t }

section Views

variable (t u : Tables) (d : Database)

@[simp] theorem seen_holding : (d.holding t).seen = t := rfl
@[simp] theorem seen_opened : d.opened.seen = d.seen := rfl
@[simp] theorem seen_committed : (d.committed t).seen = t := rfl
@[simp] theorem seen_close : d.close.seen = d.disk := rfl
@[simp] theorem disk_holding : (d.holding t).disk = d.disk := rfl
@[simp] theorem disk_opened : d.opened.disk = d.disk := rfl
@[simp] theorem disk_committed : (d.committed t).disk = t := rfl
@[simp] theorem disk_close : d.close.disk = d.disk := rfl
@[simp] theorem holding_holding : (d.holding u).holding t = d.holding t := rfl
@[simp] theorem holding_opened : d.opened.holding t = d.holding t := rfl
@[simp] theorem committed_opened : d.opened.committed t = d.committed t := rfl
@[simp] theorem committed_holding : (d.holding u).committed t = d.committed t := rfl
@[simp] theorem opened_opened : d.opened.opened = d.opened := rfl
@[simp] theorem refused_opened : d.opened.refused = d.refused := rfl

theorem live_holding : (d.holding t).Live := by
  intro h
  cases h

theorem live_opened : d.opened.Live := d.live_holding d.seen

theorem live_committed : (d.committed t).Live := by
  intro h
  cases h

theorem live_close : d.close.Live := by
  intro h
  cases h

end Views

/-! ## The steps of an operation -/

theorem runOn_tables {d : Database} (hd : d.Live) (f : Fault) :
    runOn (tables f) d = (.ok d.seen, d.opened) := by
  obtain ⟨disk, link, refused⟩ := d
  cases link with
  | closed => rfl
  | «open» t => rfl
  | lost => exact absurd rfl hd

@[simp] theorem runOn_change (f : Tables → Tables) (t : Tables) (d : Database) :
    runOn (change f) (d.holding t) = (.ok (), d.holding (f t)) := rfl

@[simp] theorem runOn_commit (t : Tables) (d : Database) :
    runOn commit (d.holding t) = (.ok (), d.committed t) := rfl

@[simp] theorem runOn_rollback (t : Tables) (d : Database) :
    runOn rollback (d.holding t) = (.ok (), d.holding d.disk) := rfl

/-! ## Reads -/

/-- The scripts in rows of the catalog. -/
def scriptsIn (rows : List Row) : Except Fault (List Script) :=
  (rows.mergeSort before).mapM fun row => do Script.ofJson (← load row.data)

def settingsIn (t : Tables) : Except Fault Settings :=
  match Fields.get? settingsKey t.settings with
  | none => .ok {}
  | some text => do Settings.ofJson (← load text)

def ledgerIn (t : Tables) : Except Fault (List (Int × RunRecord)) :=
  (t.runs.mergeSort fun a b => a.1 ≤ b.1).mapM fun (id, text) => do
    return (id, ← RunRecord.ofJson (← load text))

/-- A database after a read: the connection may have been opened. -/
def touched (d : Database) : Database := (runOn (tables readLost) d).2

theorem touched_of_live {d : Database} (hd : d.Live) : d.touched = d.opened := by
  rw [touched, runOn_tables hd]

theorem tables_touched (d : Database) : runOn (tables readLost) d.touched = runOn (tables readLost) d := by
  obtain ⟨disk, link, refused⟩ := d
  cases link with
  | closed => rfl
  | «open» t => rfl
  | lost => rfl

/-- A read is made of the tables, and what it makes of them changes nothing. -/
theorem runOn_read {α : Type} {f : Tables → Work α} {g : Tables → Except Fault α}
    (only : ∀ t d, runOn (f t) d = (g t, d)) (d : Database) :
    runOn (tables readLost >>= f) d = ((runOn (tables readLost) d).1 >>= g, d.touched) := by
  rw [runOn_bind, touched]
  rcases runOn (tables readLost) d with ⟨_ | t, d'⟩
  · rfl
  · exact only t d'

theorem runOn_catalog_read (d : Database) :
    runOn catalog d = ((runOn (tables readLost) d).1 >>= fun t => scriptsIn t.scripts, d.touched) := by
  refine runOn_read (fun t d' => ?_) d
  apply runOn_mapM
  intro row
  exact runOn_lift_bind (load row.data) Script.ofJson _

theorem runOn_settings_read (d : Database) :
    runOn settings d = ((runOn (tables readLost) d).1 >>= settingsIn, d.touched) := by
  refine runOn_read (fun t d' => ?_) d
  rw [settingsIn]
  cases Fields.get? settingsKey t.settings with
  | none => rfl
  | some text => exact runOn_lift_bind (load text) Settings.ofJson _

theorem runOn_catalog {d : Database} (hd : d.Live) :
    runOn catalog d = (scriptsIn d.seen.scripts, d.opened) := by
  rw [runOn_catalog_read, runOn_tables hd, touched_of_live hd]
  rfl

theorem runOn_settings {d : Database} (hd : d.Live) :
    runOn settings d = (settingsIn d.seen, d.opened) := by
  rw [runOn_settings_read, runOn_tables hd, touched_of_live hd]
  rfl

theorem runOn_runs {d : Database} (hd : d.Live) :
    runOn runs d = (ledgerIn d.seen, d.opened) := by
  have only (t : Tables) (d' : Database) :
      runOn ((t.runs.mergeSort fun a b => a.1 ≤ b.1).mapM fun (id, text) => do
        return (id, ← RunRecord.ofJson (← load text)) : Work (List (Int × RunRecord))) d' = (ledgerIn t, d') := by
    apply runOn_mapM
    rintro ⟨id, text⟩
    change _ = (load text >>= fun v => RunRecord.ofJson v >>= fun r => pure (id, r), d')
    rw [runOn_bind, runOn_lift]
    cases load text with
    | error e => rfl
    | ok v => exact runOn_lift_bind (RunRecord.ofJson v) (fun r => .ok (id, r)) d'
  have read : runOn runs d = _ := runOn_read only d
  rw [read, runOn_tables hd, touched_of_live hd]
  rfl

/-! ## Writes -/

/-- Why the database does not take a row, if it does not. -/
def rowFault? (refused : List Int) (row : Row) : Option Fault :=
  if !inRange row.key then some tooLarge
  else if !isStored row.data || refused.contains row.key then some .refusedRow
  else none

/-- The rows before the first that the database does not take. -/
def taken (refused : List Int) (rows : List Row) : List Row :=
  rows.takeWhile fun row => (rowFault? refused row).isNone

theorem taken_eq_self {refused : List Int} {rows : List Row}
    (h : rows.findSome? (rowFault? refused) = none) : taken refused rows = rows := by
  rw [List.findSome?_eq_none_iff] at h
  rw [taken, List.takeWhile_eq_self_iff]
  intro row hrow
  simp [h row hrow]

theorem runOn_insertRow (row : Row) (t : Tables) (d : Database) :
    runOn (insertRow row) (d.holding t) =
      match rowFault? d.refused row with
      | some f => (.error f, d.holding t)
      | none => (.ok (), d.holding { t with scripts := t.scripts ++ [row] }) := by
  have hrefused : (d.holding t).refused = d.refused := rfl
  unfold insertRow rowFault?
  cases hr : inRange row.key with
  | false => simp only [Bool.not_false, if_true, runOn_bind, runOn_throw]
  | true =>
    cases hs : (!isStored row.data || d.refused.contains row.key) <;>
      simp only [Bool.not_true, Bool.false_eq_true, if_false, if_true, runOn_bind, runOn_get,
        runOn_throw, runOn_change, hrefused, hs]

/-- Inserting stops at the first row that is not taken; the rows before it stay in the connection. -/
theorem runOn_insertRows (rows : List Row) (t : Tables) (d : Database) :
    runOn (insertRows rows) (d.holding t) =
      (match rows.findSome? (rowFault? d.refused) with
        | some f => .error f
        | none => .ok (),
      d.holding { t with scripts := t.scripts ++ taken d.refused rows }) := by
  induction rows generalizing t with
  | nil => simp [insertRows, taken]
  | cons row rest ih =>
    simp only [insertRows, runOn_bind, runOn_insertRow]
    cases h : rowFault? d.refused row with
    | some f => simp [taken, h]
    | none => simp [taken, h, ih]

/-- Where a save ends: refused before anything is touched, stopped with the connection between two
catalogs, taken back to the disk, or committed. -/
theorem runOn_saveScripts {d : Database} (hd : d.Live) (scripts : List Script) :
    runOn (saveScripts scripts) d =
      match assignIds scripts with
      | .error f => (.error f, d)
      | .ok withIds =>
        match rowsOf 0 withIds with
        | .error f => (.error f, d.holding { d.seen with scripts := [] })
        | .ok rows =>
          match rows.findSome? (rowFault? d.refused) with
          | none => (.ok withIds, d.committed { d.seen with scripts := rows })
          | some .refusedRow => (.error .refusedRow, d.holding d.disk)
          | some f => (.error f, d.holding { d.seen with scripts := taken d.refused rows }) := by
  cases hids : assignIds scripts with
  | error f => simp only [saveScripts, runOn_bind, runOn_lift, hids]
  | ok withIds =>
    cases hrows : rowsOf 0 withIds with
    | error f =>
      simp only [saveScripts, runOn_bind, runOn_lift, hids, runOn_tables hd, opened, runOn_change,
        hrows]
    | ok rows =>
      simp only [saveScripts, runOn_bind, runOn_lift, hids, runOn_tables hd, opened, runOn_change,
        hrows, runOn_tryCatch, runOn_insertRows, List.nil_append]
      cases hstop : rows.findSome? (rowFault? d.refused) with
      | none =>
        rw [taken_eq_self hstop]
        rfl
      | some f => cases f <;> rfl

/-- The text under which settings are stored. -/
def settingsText (s : Settings) : Except Fault String := do
  textOf (← Settings.ofJson s.toJson).toJson

theorem runOn_saveSettings {d : Database} (hd : d.Live) (s : Settings) :
    runOn (saveSettings s) d =
      match settingsText s with
      | .error f => (.error f, d.opened)
      | .ok text =>
        if isStored text then
          (.ok (), d.committed { d.seen with settings := Fields.set settingsKey text d.seen.settings })
        else (.error .refusedRow, d.opened) := by
  simp only [saveSettings, runOn_bind, runOn_tables hd, runOn_lift]
  cases hread : Settings.ofJson s.toJson with
  | error f =>
    have htext : settingsText s = .error f := by simp only [settingsText, hread]; rfl
    rw [htext]
  | ok normal =>
    have htext : settingsText s = textOf normal.toJson := by simp only [settingsText, hread]; rfl
    rw [htext]
    dsimp only
    cases textOf normal.toJson with
    | error f => rfl
    | ok text => cases h : isStored text <;> simp [runOn_bind, opened, h]

/-- The record of a script as tables hold it. -/
def recordIn (id : Int) (t : Tables) : Except Fault (Option RunRecord) :=
  match t.runs.find? (·.1 = id) with
  | none => .ok none
  | some (_, text) => do some <$> RunRecord.ofJson (← load text)

theorem runOn_record? {d : Database} (hd : d.Live) (id : Int) :
    runOn (record? id) d =
      (if inRange id then recordIn id d.seen else .error tooLarge, d.opened) := by
  simp only [record?, runOn_bind, runOn_tables hd]
  cases hr : inRange id with
  | false => simp
  | true =>
    simp only [Bool.not_true, Bool.false_eq_true, if_false, if_true, recordIn]
    cases d.seen.runs.find? (·.1 = id) with
    | none => rfl
    | some e =>
      obtain ⟨k, text⟩ := e
      dsimp only
      rw [runOn_bind, runOn_lift]
      cases load text with
      | error f => rfl
      | ok v => exact runOn_map some _ _

theorem runOn_putRecord (id : Int) (r : RunRecord) (t : Tables) (d : Database) :
    runOn (putRecord id r) (d.holding t) =
      match recordText r with
      | .error f => (.error f, d.holding t)
      | .ok text =>
        if isStored text then (.ok (), d.committed { t with runs := setRun id text t.runs })
        else (.error .refusedRow, d.holding t) := by
  simp only [putRecord, runOn_bind, runOn_lift]
  cases recordText r with
  | error f => rfl
  | ok text => cases h : isStored text <;> simp [runOn_bind, h]

end Userscript.Catalog.Database
