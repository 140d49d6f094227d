import Userscript.Proofs.Catalog.Rows
import Userscript.Proofs.Json.Canonical

/-!
# Userscript.Proofs.Catalog.KeptFields

The ledger of a database keeps what is not its own.

Rows of the ledger hold objects of any shape. A run of a script reads its row, sets the time and the error of the last
run, and writes the row again.

* `RunRecord.Holds`: a record and the fields in it that are not the ledger's, all of which text keeps. Such a record is
  written as text that is read as that record (`Holds.recordText`, `Holds.ofJson_data`), and a run keeps its fields
  (`Holds.afterRun`);
* `Database.Carries`: the rows of the ledger are the same on the disk as in the connection. No call but a run
  recorded touches them, not even a save that fails halfway (`Store.carries_perform`), and that one sets one row
  (`Store.perform_record_carries`);
* `Store.carried_after`: so each row has the record of its last run, with the fields it began with;
* `Store.ledger_keeps_others`, and why the digits of integers are limited there (`Store.ledger_loses_long`).
-/

namespace Userscript

/-! ## Records with fields of others -/

namespace RunRecord

/-- The fields of an object that are not the ledger's. -/
def othersOf (fields : Fields Json) : Fields Json :=
  fields.filter fun f => f.1 ≠ "lastRunTime" ∧ f.1 ≠ "lastError"

def kept (others : Fields Json) : Entries := others.map fun f => (.str f.1, f.2)

/-- The record that the fields of an object make. -/
def ofFields (fields : Fields Json) : RunRecord where
  lastRunTime := Json.field "lastRunTime" fields
  lastError := Json.field "lastError" fields
  extra := kept (othersOf fields)

/-- The data of a record that keeps fields of others. -/
def data (others : Fields Json) (r : RunRecord) : Json :=
  .obj (others ++ [("lastRunTime", r.lastRunTime), ("lastError", r.lastError)])

/-- A record, and the fields of others in it: none is the ledger's, they differ, and text keeps them all. -/
structure Holds (others : Fields Json) (r : RunRecord) : Prop where
  extra : r.extra = kept others
  names : (others.map (·.1)).Nodup
  apart : ∀ f ∈ others, f.1 ≠ "lastRunTime" ∧ f.1 ≠ "lastError"
  values : ∀ f ∈ others, f.2.IsKept
  time : r.lastRunTime.IsKept
  error : r.lastError.IsKept

theorem sameKey_str (k name : String) : Entries.sameKey (.str k) (.str name) = decide (k = name) := rfl

theorem named?_kept (name : String) (fields : Fields Json) :
    Entries.named? name (kept fields) = Fields.get? name fields := by
  induction fields with
  | nil => rfl
  | cons f rest ih =>
    obtain ⟨k, v⟩ := f
    rw [Entries.named?, kept, List.map_cons, List.find?_cons] at *
    rw [Fields.get?, sameKey_str]
    by_cases same : k = name
    · simp [same]
    · simpa [same] using ih

theorem without_kept (name : String) (fields : Fields Json) :
    Entries.without name (kept fields) = kept (fields.filter fun f => f.1 ≠ name) := by
  rw [Entries.without, kept, kept, List.filter_map]
  congr 2
  funext f
  simp [Function.comp, sameKey_str]

theorem set_kept_of_notMem {name : String} {value : Json} {fields : Fields Json} (h : ∀ f ∈ fields, f.1 ≠ name) :
    Entries.set (.str name) value (kept fields) = kept (fields ++ [(name, value)]) := by
  induction fields with
  | nil => rfl
  | cons f rest ih =>
    obtain ⟨k, v⟩ := f
    rw [List.forall_mem_cons] at h
    rw [kept, List.map_cons, Entries.set, sameKey_str, if_neg (by simpa using h.1)]
    exact congrArg _ (ih h.2)

/-- A record is read from the fields of an object. -/
theorem ofJson_obj (fields : Fields Json) : ofJson (.obj fields) = .ok (ofFields fields) := by
  have entries : Entries.ofJson (.obj fields) = .ok (kept fields) := by
    cases fields with
    | nil => rfl
    | cons f rest => rfl
  rw [ofJson, entries]
  simp only [Except.map, named?_kept, without_kept, List.filter_filter, ofFields, othersOf, Json.field]
  congr 3
  exact List.filter_congr fun f _ => by simp [Bool.and_comm]

namespace Holds

variable {others : Fields Json} {r : RunRecord} (h : Holds others r)

include h

theorem isKept : (data others r).IsKept := by
  refine .obj ?_ ?_
  · rw [List.forall_mem_append]
    simp only [List.forall_mem_cons]
    exact ⟨h.values, h.time, h.error, List.forall_mem_nil _⟩
  · rw [List.map_append, List.nodup_append]
    refine ⟨h.names, by simp, fun name among own isOwn same => ?_⟩
    obtain ⟨f, hf, rfl⟩ := List.mem_map.1 among
    have apart := h.apart f hf
    simp only [List.map_cons, List.map_nil, List.mem_cons, List.not_mem_nil, or_false] at isOwn
    rcases isOwn with rfl | rfl
    · exact apart.1 same
    · exact apart.2 same

theorem ofJson_data : ofJson (data others r) = .ok r := by
  have first {name : String} (fresh : ∀ f ∈ others, f.1 ≠ name) (later : Fields Json) :
      Fields.get? name (others ++ later) = Fields.get? name later := by
    clear h
    induction others with
    | nil => rfl
    | cons f rest ih =>
      rw [List.forall_mem_cons] at fresh
      rw [List.cons_append, Fields.get?, if_neg fresh.1, ih fresh.2]
  have stay : othersOf others = others := List.filter_eq_self.2 fun f hf => by simpa using h.apart f hf
  have split : othersOf (others ++ [("lastRunTime", r.lastRunTime), ("lastError", r.lastError)]) = others := by
    rw [othersOf, List.filter_append]
    simpa [othersOf] using stay
  rw [data, ofJson_obj]
  simp only [ofFields, Json.field, first fun f hf => (h.apart f hf).1, first fun f hf => (h.apart f hf).2, split,
    ← h.extra]
  rfl

theorem recordText : Catalog.Database.recordText r = .ok (data others r).text := by
  have entries : r.toEntries = kept (others ++ [("lastRunTime", r.lastRunTime), ("lastError", r.lastError)]) := by
    rw [toEntries, h.extra, set_kept_of_notMem fun f hf => (h.apart f hf).1, set_kept_of_notMem, List.append_assoc]
    · rfl
    · rw [List.forall_mem_append]
      exact ⟨fun f hf => (h.apart f hf).2, by simp⟩
  have shown (fields : Fields Json) : Entries.toDatum (kept fields) = Datum.ofJson (.obj fields) := by
    rw [Entries.toDatum, kept, List.map_map, Datum.ofJson, Datum.ofFields_eq_map]
    rfl
  rw [Catalog.Database.recordText, entries, shown, ← data, Datum.toJson_ofJson h.isKept.writable]

theorem afterRun {now : Json} (time : now.IsKept) (ok : Bool) (error : Json) : Holds others (r.afterRun now ok error) := by
  refine { h with time := time, error := ?_ }
  rw [RunRecord.afterRun]
  cases ok with
  | true => exact Json.isKept_null
  | false => exact Json.isKept_str _

end Holds

theorem holds_empty : Holds [] {} where
  extra := rfl
  names := .nil
  apart := List.forall_mem_nil _
  values := List.forall_mem_nil _
  time := Json.isKept_null
  error := Json.isKept_null

/-- The record of an object that was read. -/
theorem holds_ofFields {fields : Fields Json} (h : (Json.obj fields).IsKept) :
    Holds (othersOf fields) (ofFields fields) := by
  obtain ⟨names, values⟩ := h.fields
  exact ⟨rfl, names.sublist (List.filter_sublist.map _), fun f hf => by simpa using (List.mem_filter.1 hf).2,
    fun f hf => values f (List.mem_of_mem_filter hf), h.field _, h.field _⟩

end RunRecord

namespace Catalog

/-! ## Rows of the ledger -/

namespace Database

open RunRecord (Holds)

/-- A row of the ledger that can be read, and of which a run keeps all that is not its own. -/
def Readable (text : String) : Prop :=
  ∃ r others, load text >>= RunRecord.ofJson = .ok r ∧ Holds others r

theorem Readable.read {text : String} (h : Readable text) :
    load text >>= RunRecord.ofJson = .ok (recorded text) ∧ ∃ others, Holds others (recorded text) := by
  obtain ⟨r, others, read, holds⟩ := h
  rw [recorded, read]
  exact ⟨rfl, others, holds⟩

theorem read_of_load {text : String} {fields : Fields Json} (h : load text = .ok (.obj fields)) :
    load text >>= RunRecord.ofJson = .ok (.ofFields fields) := by
  rw [h]
  exact RunRecord.ofJson_obj fields

/-- An object whose numbers are finite can be read. -/
theorem readable_of_load {text : String} {fields : Fields Json} (h : load text = .ok (.obj fields))
    (finite : (Json.obj fields).isStandard = true) : Readable text :=
  ⟨_, _, read_of_load h, RunRecord.holds_ofFields (isKept_of_load h finite)⟩

theorem recorded_of_load {text : String} {fields : Fields Json} (h : load text = .ok (.obj fields)) :
    recorded text = .ofFields fields := by
  rw [recorded, read_of_load h]
  rfl

/-- What is written for a record is read as that record. -/
theorem read_data {others : Fields Json} {r : RunRecord} (h : Holds others r) :
    Readable (RunRecord.data others r).text ∧ recorded (RunRecord.data others r).text = r := by
  have read : load (RunRecord.data others r).text >>= RunRecord.ofJson = .ok r := by
    rw [h.isKept.load]
    exact h.ofJson_data
  refine ⟨⟨r, others, read, h⟩, ?_⟩
  rw [recorded, read]
  rfl

section Rows

variable {rows : List (Int × String)} {id other : Int} {text : String}

theorem find?_setRun : (setRun id text rows).find? (·.1 = other) =
    if id = other then some (id, text) else rows.find? (·.1 = other) := by
  induction rows with
  | nil => by_cases same : id = other <;> simp [setRun, same]
  | cons row rest ih =>
    obtain ⟨k, old⟩ := row
    rw [setRun]
    by_cases here : k = id
    · subst here
      by_cases same : k = other <;> simp [same]
    · rw [if_neg here, List.find?_cons, ih, List.find?_cons]
      by_cases same : k = other
      · simp [same, show id ≠ other from fun h => here (same.trans h.symm)]
      · simp [same]

theorem mem_setRun {row : Int × String} (h : row ∈ setRun id text rows) : row = (id, text) ∨ row ∈ rows := by
  induction rows with
  | nil => exact .inl (List.mem_singleton.1 h)
  | cons first rest ih =>
    obtain ⟨k, old⟩ := first
    rw [setRun] at h
    split at h
    · rcases List.mem_cons.1 h with rfl | h
      · exact .inl rfl
      · exact .inr (List.mem_cons_of_mem _ h)
    · rcases List.mem_cons.1 h with rfl | h
      · exact .inr List.mem_cons_self
      · exact (ih h).imp_right (List.mem_cons_of_mem _)

theorem readable_setRun (h : ∀ row ∈ rows, Readable row.2) (new : Readable text) :
    ∀ row ∈ setRun id text rows, Readable row.2 := by
  intro row hrow
  rcases mem_setRun hrow with rfl | hrow
  · exact new
  · exact h row hrow

theorem nodup_setRun (h : (rows.map (·.1)).Nodup) : ((setRun id text rows).map (·.1)).Nodup := by
  induction rows with
  | nil => exact List.pairwise_singleton _ id
  | cons first rest ih =>
    obtain ⟨k, old⟩ := first
    rw [List.map_cons, List.nodup_cons] at h
    rw [setRun]
    split
    · next same => exact List.nodup_cons.2 (same ▸ h)
    · next differs =>
      rw [List.map_cons, List.nodup_cons]
      refine ⟨fun again => ?_, ih h.2⟩
      obtain ⟨row, hrow, same⟩ := List.mem_map.1 again
      rcases mem_setRun hrow with rfl | hrow
      · exact differs same.symm
      · exact h.1 (same ▸ List.mem_map_of_mem hrow)

theorem recordAt_setRun {others : Fields Json} {r : RunRecord} (h : Holds others r) :
    recordAt other (setRun id (RunRecord.data others r).text rows) = if id = other then some r else recordAt other rows := by
  rw [recordAt, find?_setRun]
  by_cases same : id = other
  · rw [if_pos same, if_pos same, Option.map_some, (read_data h).2]
  · rw [if_neg same, if_neg same, recordAt]

/-- The record that a run starts from. -/
theorem exists_holds_recordAt (h : ∀ row ∈ rows, Readable row.2) (id : Int) :
    ∃ others, Holds others ((recordAt id rows).getD {}) := by
  rw [recordAt]
  cases found : rows.find? (·.1 = id) with
  | none => exact ⟨[], RunRecord.holds_empty⟩
  | some row => exact (h row (List.mem_of_find?_eq_some found)).read.2

theorem nodup_ledgerOf (h : (rows.map (·.1)).Nodup) : ((ledgerOf rows).map (·.1)).Nodup := by
  rw [ledgerOf, List.map_map]
  exact (List.mergeSort_perm _ _).map _ |>.nodup_iff.2 h

theorem find?_eq_some_iff {row : Int × String} (h : (rows.map (·.1)).Nodup) :
    rows.find? (·.1 = id) = some row ↔ row ∈ rows ∧ row.1 = id := by
  induction rows with
  | nil => simp
  | cons first rest ih =>
    rw [List.map_cons, List.nodup_cons] at h
    rw [List.find?_cons, List.mem_cons]
    by_cases here : first.1 = id
    · have only (among : row ∈ rest) (same : row.1 = id) : False :=
        h.1 (here.trans same.symm ▸ List.mem_map_of_mem among)
      simp only [here, decide_true, Option.some.injEq]
      constructor
      · rintro rfl
        exact ⟨.inl rfl, here⟩
      · rintro ⟨rfl | among, same⟩
        · rfl
        · exact (only among same).elim
    · rw [decide_eq_false here]
      dsimp only
      rw [ih h.2]
      refine ⟨fun ⟨among, same⟩ => ⟨.inr among, same⟩, ?_⟩
      rintro ⟨rfl | among, same⟩
      · exact absurd same here
      · exact ⟨among, same⟩

/-- The order of the ids does not matter to a look-up. -/
theorem recordOf_ledgerOf (h : (rows.map (·.1)).Nodup) : Store.recordOf id (ledgerOf rows) = recordAt id rows := by
  have sorted : (rows.mergeSort fun a b => a.1 ≤ b.1).Perm rows := List.mergeSort_perm _ _
  have found : (rows.mergeSort fun a b => a.1 ≤ b.1).find? (·.1 = id) = rows.find? (·.1 = id) := by
    ext row
    rw [find?_eq_some_iff ((sorted.map _).nodup_iff.2 h), find?_eq_some_iff h, sorted.mem_iff]
  rw [Store.recordOf, ledgerOf, List.find?_map, Option.map_map, recordAt, ← found]
  rfl

end Rows

/-- A database whose ledger has the same rows on the disk as in the connection. -/
structure Carries (rows : List (Int × String)) (d : Database) : Prop where
  live : d.Live
  seen : d.seen.runs = rows
  disk : d.disk.runs = rows

namespace Carries

variable {rows : List (Int × String)} {d : Database} {t : Tables}

theorem committed (same : t.runs = rows) : Carries rows (d.committed t) := ⟨d.live_committed t, same, same⟩

variable (h : Carries rows d)

include h

theorem holding (same : t.runs = rows) : Carries rows (d.holding t) := ⟨d.live_holding t, same, h.disk⟩

theorem opened : Carries rows d.opened := h.holding h.seen

theorem close : Carries rows d.close := ⟨d.live_close, h.disk, h.disk⟩

theorem refuse (id : Int) : Carries rows (d.refuse id) := ⟨h.live, h.seen, h.disk⟩

/-- However a save ends, also halfway or taken back, the ledger is as it was. -/
theorem saveScripts (scripts : List Script) : Carries rows (runOn (saveScripts scripts) d).2 := by
  rw [runOn_saveScripts h.live]
  split
  · exact h
  · split
    · exact h.holding h.seen
    · split
      · exact committed h.seen
      · exact h.holding h.disk
      · exact h.holding h.seen

end Carries

end Database

namespace Store

open Database (Carries Readable recordAt ledgerOf)

def Call.isRecord : Call → Bool
  | .record .. => true
  | _ => false

section Calls

variable {rows : List (Int × String)} {d : Database} (h : Carries rows d) (n : Nat) (time : Nat → Json)

include h

/-- No call but a run recorded touches the ledger. -/
theorem carries_perform {c : Call} (quiet : c.isRecord = false) :
    ∃ e, (perform c (upon d n time)).2 = upon e n time ∧ Carries rows e := by
  cases c with
  | save scripts =>
    rw [perform_save]
    exact ⟨_, rfl, h.saveScripts scripts⟩
  | add script =>
    rw [perform_add h.live]
    split
    · exact ⟨_, rfl, h.opened⟩
    · exact ⟨_, rfl, h.opened.saveScripts _⟩
  | catalog => exact ⟨_, by rw [perform_catalog h.live], h.opened⟩
  | settings => exact ⟨_, by rw [perform_settings h.live], h.opened⟩
  | runs => exact ⟨_, by rw [perform_runs h.live], h.opened⟩
  | saveSettings settings =>
    rw [perform_saveSettings h.live]
    split
    · exact ⟨_, rfl, h.opened⟩
    · split
      · exact ⟨_, rfl, .committed h.seen⟩
      · exact ⟨_, rfl, h.opened⟩
  | record id ok error => cases quiet
  | reopen => exact ⟨_, rfl, h.close⟩
  | refuse id => exact ⟨_, rfl, h.refuse id⟩

theorem perform_runs_carries (readable : ∀ row ∈ rows, Readable row.2) :
    (perform .runs (upon d n time)).1 = .ok (.runs (ledgerOf rows)) := by
  rw [perform_runs h.live, Database.ledgerIn_eq h.seen fun row hrow => (readable row hrow).read.1]
  rfl

/-- A run that is recorded sets the row of its script to the record after it, with the fields of others that were
there. -/
theorem perform_record_carries (readable : ∀ row ∈ rows, Readable row.2) {id : Int} (key : Database.inRange id = true)
    (clocked : (time (n + 1)).IsKept) (ok : Bool) (error : Json) :
    ∃ others e, RunRecord.Holds others (((recordAt id rows).getD {}).afterRun (time (n + 1)) ok error) ∧
      perform (.record id ok error) (upon d n time) = (.ok .done, upon e (n + 1) time) ∧
      Carries (Database.setRun id
        (RunRecord.data others (((recordAt id rows).getD {}).afterRun (time (n + 1)) ok error)).text rows) e := by
  obtain ⟨others, before⟩ := Database.exists_holds_recordAt readable id
  have holds := before.afterRun clocked ok error
  have rowSet (text : String) : Database.setRun id text d.seen.runs = Database.setRun id text rows := by rw [h.seen]
  refine ⟨others, d.committed { d.seen with runs := Database.setRun id _ d.seen.runs }, holds, ?_, .committed (rowSet _)⟩
  rw [perform_record h.live, if_pos key, Database.recordIn_eq h.seen fun row hrow => (readable row hrow).read.1]
  dsimp only
  rw [holds.recordText]
  dsimp only
  rw [if_pos holds.isKept.isStored]

end Calls

/-! ## Histories -/

/-- The last run of a script that calls record: when it was by a clock that was read `n` times before, whether it went
well, and its error. -/
def lastRun (id : Int) (n : Nat) : List Call → Option (Nat × Bool × Json)
  | [] => none
  | .record k ok error :: rest => (lastRun id (n + 1) rest).or (if k = id then some (n + 1, ok, error) else none)
  | _ :: rest => lastRun id n rest

/-- The record of a script after calls, from the one before them. -/
def recordAfter (time : Nat → Json) (before : Option RunRecord) : Option (Nat × Bool × Json) → Option RunRecord
  | none => before
  | some (n, ok, error) => some {
      lastRunTime := time n
      lastError := if ok then .null else .str (RunRecord.errorText error)
      extra := (before.map (·.extra)).getD [] }

theorem recordAfter_or (time : Nat → Json) (before : Option RunRecord) (later : Option (Nat × Bool × Json)) (n : Nat)
    (ok : Bool) (error : Json) :
    recordAfter time (some ((before.getD {}).afterRun (time n) ok error)) later =
      recordAfter time before (later.or (some (n, ok, error))) := by
  cases later with
  | none => cases before <;> rfl
  | some last => cases before <;> rfl

/-- Calls leave a ledger that has the record of the last run of each script. -/
theorem carried_after {rows : List (Int × String)} {d : Database} {time : Nat → Json} (h : Carries rows d)
    (keys : (rows.map (·.1)).Nodup) (readable : ∀ row ∈ rows, Readable row.2) (clocked : ∀ n, (time n).IsKept)
    (n : Nat) (calls : List Call) (ids : ∀ id ok error, .record id ok error ∈ calls → Database.inRange id = true) :
    ∃ rows' e m, after calls (upon d n time) = upon e m time ∧ Carries rows' e ∧ (rows'.map (·.1)).Nodup ∧
      (∀ row ∈ rows', Readable row.2) ∧
      ∀ id, recordAt id rows' = recordAfter time (recordAt id rows) (lastRun id n calls) := by
  -- On the calls: one that records no run carries the same rows, and one that does sets the row of its script.
  induction calls generalizing rows d n with
  | nil => exact ⟨rows, d, n, rfl, h, keys, readable, fun id => rfl⟩
  | cons c rest ih =>
    have idsRest (id : Int) (ok : Bool) (error : Json) (among : .record id ok error ∈ rest) :=
      ids id ok error (List.mem_cons_of_mem _ among)
    cases quiet : c.isRecord with
    | false =>
      obtain ⟨e, left, carries⟩ := carries_perform h n time quiet
      obtain ⟨rows', e', m, left', carries', keys', readable', records⟩ := ih carries keys readable n idsRest
      refine ⟨rows', e', m, by rw [after, left, left'], carries', keys', readable', fun id => ?_⟩
      have same : lastRun id n (c :: rest) = lastRun id n rest := by
        cases c with
        | record => cases quiet
        | _ => rfl
      rw [records, same]
    | true =>
      cases c with
      | record id ok error =>
        obtain ⟨others, e, holds, performed, carries⟩ := perform_record_carries h n time readable
          (ids id ok error List.mem_cons_self) (clocked (n + 1)) ok error
        obtain ⟨rows', e', m, left', carries', keys', readable', records⟩ := ih carries (Database.nodup_setRun keys)
          (Database.readable_setRun readable (Database.read_data holds).1) (n + 1) idsRest
        refine ⟨rows', e', m, by rw [after, performed, left'], carries', keys', readable', fun other => ?_⟩
        rw [records, Database.recordAt_setRun holds, lastRun]
        by_cases same : id = other
        · subst same
          rw [if_pos rfl, if_pos rfl, recordAfter_or]
        · rw [if_neg same, if_neg same, Option.or_none]
      | _ => cases quiet

/-- The objects that rows of a ledger hold. -/
def HoldObjects (rows : List (Int × String)) (objects : List (Int × Fields Json)) : Prop :=
  List.Forall₂ (fun row o => row.1 = o.1 ∧ Database.load row.2 = .ok (.obj o.2) ∧ (Json.obj o.2).isStandard = true)
    rows objects

theorem HoldObjects.readable {rows : List (Int × String)} {objects : List (Int × Fields Json)}
    (h : HoldObjects rows objects) : ∀ row ∈ rows, Readable row.2 := by
  induction h with
  | nil => exact List.forall_mem_nil _
  | cons first _ ih =>
    obtain ⟨-, loaded, finite⟩ := first
    exact List.forall_mem_cons.2 ⟨Database.readable_of_load loaded finite, ih⟩

theorem HoldObjects.recordAt {rows : List (Int × String)} {objects : List (Int × Fields Json)}
    (h : HoldObjects rows objects) (id : Int) :
    recordAt id rows = (objects.find? (·.1 = id)).map fun o => .ofFields o.2 := by
  rw [Database.recordAt]
  induction h with
  | nil => rfl
  | cons first _ ih =>
    obtain ⟨same, loaded, -⟩ := first
    rw [List.find?_cons, List.find?_cons, same]
    split
    · rw [Option.map_some, Option.map_some, Database.recorded_of_load loaded]
    · exact ih

/-- The ledger keeps what is not its own. Let the rows of the ledger in a file hold objects whose numbers are integers
within the limit of digits or finite, and let calls follow, with runs of scripts recorded under row keys at times that
text keeps. Then all runs are recorded, the ledger can be read, and the record of each script is as in the file if no
run of it was recorded; otherwise it has the fields and values of the file that are not the ledger's own, the time of the
last run, and its error: null if it went well, else its text, or what stands for a missing or empty one. No other
call, whether it succeeds or not, changes what the ledger reads as. -/
theorem ledger_keeps_others {time : Nat → Json} (clocked : ∀ n, (time n).IsKept) (file : Tables)
    (objects : List (Int × Fields Json)) (keys : (file.runs.map (·.1)).Nodup) (rows : HoldObjects file.runs objects)
    (clock : Nat) (calls : List Call) (ids : ∀ id ok error, .record id ok error ∈ calls → Database.inRange id = true) :
    (∃ ledger, (perform .runs (after calls (onFile file clock time))).1 = .ok (.runs ledger) ∧
      (ledger.map (·.1)).Nodup ∧
      ∀ id, recordOf id ledger =
        recordAfter time ((objects.find? (·.1 = id)).map fun o => .ofFields o.2) (lastRun id clock calls)) ∧
    (∀ before c later, calls = before ++ c :: later →
      (c.isRecord = true → (perform c (after before (onFile file clock time))).1 = .ok .done) ∧
      (c.isRecord = false → (perform .runs (perform c (after before (onFile file clock time))).2).1 =
        (perform .runs (after before (onFile file clock time))).1)) ∧
    RunRecord.errorText .null = "Unknown error" ∧ RunRecord.errorText (.str "") = "Unknown error" ∧
    ∀ text, text ≠ "" → RunRecord.errorText (.str text) = text := by
  have start : Carries file.runs { disk := file } := ⟨fun lost => (by cases lost), rfl, rfl⟩
  refine ⟨?_, ?_, rfl, rfl, fun text some => ?_⟩
  · obtain ⟨rows', e, m, left, carries, keys', readable, records⟩ :=
      carried_after start keys rows.readable clocked clock calls ids
    refine ⟨ledgerOf rows', ?_, Database.nodup_ledgerOf keys', fun id => ?_⟩
    · rw [onFile, left, perform_runs_carries carries m time readable]
    · rw [Database.recordOf_ledgerOf keys', records, rows.recordAt]
  · rintro before c later rfl
    have idsBefore (id : Int) (ok : Bool) (error : Json) (among : .record id ok error ∈ before) :=
      ids id ok error (List.mem_append_left _ among)
    -- Any call comes after calls that carried the rows, so it finds them readable.
    obtain ⟨rows', e, m, left, carries, -, readable, -⟩ :=
      carried_after start keys rows.readable clocked clock before idsBefore
    rw [onFile, left]
    constructor
    · intro records
      cases c with
      | record id ok error =>
        have key := ids id ok error (List.mem_append_right _ List.mem_cons_self)
        obtain ⟨_, _, -, performed, -⟩ := perform_record_carries carries m time readable key (clocked (m + 1)) ok error
        rw [performed]
      | _ => cases records
    · intro quiet
      obtain ⟨e', left', carries'⟩ := carries_perform carries m time quiet
      rw [left', perform_runs_carries carries' m time readable, perform_runs_carries carries m time readable]
  · rw [RunRecord.errorText, Json.orElse, if_pos (by simpa [Json.truthy] using some)]
    rfl

/-- A file with two rows. Two runs of the first script are recorded, one of them with an error, and a run of a third one;
between them a catalog is saved, refused and saved again, and the store is closed. -/
theorem ledger_keeps_others_row :
    let time : Nat → Json := fun n => .num (.ofRatio false (n % 4) 2)
    let first : Fields Json := [("runs", .arr [.int 0, .null]), ("lastError", .str "old"), ("note", .str "")]
    let second : Fields Json := []
    let file : Tables := { runs := [(1, (Json.obj first).text), (-2, (Json.obj second).text)] }
    let calls : List Call := [.record 1 true .null, .save [{ id := some 1, code := .str "pass" }], .add { id := some 1 },
      .record 3 true .null, .reopen, .record 1 false (.str ""), .saveSettings {}]
    ∃ ledger, (perform .runs (after calls (onFile file 0 time))).1 = .ok (.runs ledger) ∧
      (ledger.map (·.1)).Nodup ∧
      recordOf 1 ledger = some {
        lastRunTime := time 3
        lastError := .str "Unknown error"
        extra := [(.str "runs", .arr [.int 0, .null]), (.str "note", .str "")] } ∧
      recordOf (-2) ledger = some {} ∧
      recordOf 3 ledger = some { lastRunTime := time 2 } ∧
      recordOf 4 ledger = none := by
  intro time first second file calls
  have finite : ∀ k < 4, (Binary64.ofRatio false k 2).isFinite = true := by decide
  have clocked (n : Nat) : (time n).IsKept := Json.isKept_num (finite (n % 4) (Nat.mod_lt n (by decide)))
  have kept : (Json.obj first).IsKept := by
    refine .obj ?_ (by decide)
    simp only [first, List.forall_mem_cons]
    refine ⟨.arr ?_, Json.isKept_str _, Json.isKept_str _, List.forall_mem_nil _⟩
    simp only [List.forall_mem_cons]
    exact ⟨Json.isKept_int (Json.isShort_of_inRange rfl), Json.isKept_null, List.forall_mem_nil _⟩
  have kept' : (Json.obj second).IsKept := .obj (List.forall_mem_nil _) .nil
  have rows : HoldObjects file.runs [(1, first), (-2, second)] :=
    .cons ⟨rfl, kept.load, kept.standard⟩ (.cons ⟨rfl, kept'.load, kept'.standard⟩ .nil)
  have ids : ∀ id ok error, .record id ok error ∈ calls → Database.inRange id = true := by
    intro id ok error among
    simp only [calls, List.mem_cons, Call.record.injEq, reduceCtorEq, false_or, or_false, List.not_mem_nil] at among
    rcases among with ⟨rfl, -⟩ | ⟨rfl, -⟩ | ⟨rfl, -⟩ <;> rfl
  obtain ⟨⟨ledger, read, distinct, records⟩, -⟩ :=
    ledger_keeps_others clocked file [(1, first), (-2, second)] (by decide) rows 0 calls ids
  exact ⟨ledger, read, distinct, records 1, records (-2), records 3, records 4⟩

theorem length_toDigits_pow {n : Nat} (positive : 0 < n) : (Nat.toDigits 10 (Nat.pow 10 n)).length = n + 1 := by
  have upper : (Nat.toDigits 10 (10 ^ n)).length ≤ n + 1 :=
    (Nat.length_toDigits_le_iff (by omega) (by omega)).2 (Nat.pow_lt_pow_right (by omega) (by omega))
  have lower : ¬(Nat.toDigits 10 (10 ^ n)).length ≤ n := by
    rw [Nat.length_toDigits_le_iff (by omega) positive]
    exact Nat.lt_irrefl _
  rw [Nat.pow_eq]
  omega

/-- The row of an integer with too many digits: it is stored, but no run can be recorded for it, and the ledger cannot
be read. -/
theorem row_of_long {n : Nat} (long : Number.digitLimit ≤ n) :
    let row := (Json.obj [("n", .int (Nat.pow 10 n : Nat))]).text
    let file : Tables := { runs := [(1, row)] }
    let fault : Fault := .badValue (Number.NumeralFault.tooManyDigits (n + 1)).message
    Database.isStored row = true ∧
    Json.read false row = .ok (.obj [("n", .int (Nat.pow 10 n : Nat))]) ∧
    perform (.record 1 true .null) (onFile file 0) = (.error fault, upon (Database.opened { disk := file }) 0) ∧
    (perform .runs (onFile file 0)).1 = .error fault := by
  intro row file fault
  have positive : 0 < n := Nat.lt_of_lt_of_le (by decide) long
  have tooLong : ¬Json.IsShort (Nat.pow 10 n : Nat) := by
    have more : Nat.pow 10 Number.digitLimit ≤ Nat.pow 10 n := Nat.pow_le_pow_right (by decide) long
    rw [Json.IsShort, Int.natAbs_natCast]
    exact Nat.not_lt.2 more
  obtain ⟨stored, load⟩ := Database.load_long "n" tooLong
  rw [Int.natAbs_natCast, length_toDigits_pow positive] at load
  have load : Database.load row = .error fault := load
  have live : Database.Live { disk := file } := fun lost => (by cases lost)
  have record : Database.recordIn 1 file = .error fault := by
    have found : file.runs.find? (·.1 = 1) = some (1, row) := rfl
    rw [Database.recordIn, found]
    dsimp only
    rw [load]
    rfl
  have ledger : Database.ledgerIn file = .error fault := by
    have one : file.runs.mergeSort (fun a b => a.1 ≤ b.1) = [(1, row)] := List.mergeSort_singleton _
    rw [Database.ledgerIn, one, List.mapM_cons]
    dsimp only
    rw [load]
    rfl
  refine ⟨stored, Json.read_text fun limited => absurd limited Bool.false_ne_true, ?_, ?_⟩
  · have seen : Database.recordIn 1 (Database.seen { disk := file }) = .error fault := record
    rw [onFile, perform_record live, if_pos (show Database.inRange 1 = true from rfl), seen]
  · have seen : Database.ledgerIn (Database.seen { disk := file }) = .error fault := ledger
    rw [onFile, perform_runs live, seen]
    rfl

/-- A row that holds an integer of 5001 digits, in an object that the database takes: no run is recorded for it. -/
theorem ledger_loses_long :
    let row := (Json.obj [("n", .int (Nat.pow 10 5000 : Nat))]).text
    let file : Tables := { runs := [(1, row)] }
    let fault : Fault := .badValue (Number.NumeralFault.tooManyDigits 5001).message
    Database.isStored row = true ∧
    Json.read false row = .ok (.obj [("n", .int (Nat.pow 10 5000 : Nat))]) ∧
    perform (.record 1 true .null) (onFile file 0) = (.error fault, upon (Database.opened { disk := file }) 0) ∧
    (perform .runs (onFile file 0)).1 = .error fault :=
  row_of_long (show Number.digitLimit ≤ 5000 by decide)

end Store

end Catalog
end Userscript
