import Userscript.Proofs.Catalog.History

/-!
# Userscript.Proofs.Catalog.FailedSave

When a failed save leaves the catalog alone.

A save deletes the catalog and writes the new one before it commits. Two ids that are one are found
before, and a row that the database refuses takes everything back; but an id that is no row key, or
data that cannot be written, stops the save halfway (`SaveEnds.halfway`): the connection goes on
with the rows written so far, the next commit of anything makes them the catalog, and closing drops
them.

* `saveScripts_ends`: the ways in which a save can end;
* `keepsShowing_iff`: reads stay the same, whatever happens short of a save, if and only if the
  connection and the disk show the same;
* `failed_save_keeps_catalog_iff`: the exact condition under which a failed save is undone.
-/

namespace Userscript.Catalog

/-! ## How a save ends -/

namespace Database

/-- The faults that stop a save between the old catalog and the new one. -/
def StopsHalfway (f : Fault) : Prop := f = tooLarge ∨ f = unwritable

/-- The rows that a save writes before it stops halfway: those before the first id that is no row
key, and none if some data cannot be written. -/
def written (scripts : List Script) : List Row :=
  match assignIds scripts with
  | .error _ => []
  | .ok withIds =>
    match rowsOf 0 withIds with
    | .error _ => []
    | .ok rows => rows.takeWhile fun row => inRange row.key

/-- The ways in which a save can end. -/
inductive SaveEnds (d : Database) (scripts : List Script) :
    Except Fault (List Script) × Database → Prop where
  | committed (saved : List Script) (t : Tables) : SaveEnds d scripts (.ok saved, d.committed t)
  | duplicate (id : Json) : SaveEnds d scripts (.error (.duplicateId id), d)
  | refused : SaveEnds d scripts (.error .refusedRow, d.holding d.disk)
  | halfway {f : Fault} {t : Tables} : StopsHalfway f → t.scripts = written scripts →
      SaveEnds d scripts (.error f, d.holding t)

theorem assignIds_error {scripts : List Script} {f : Fault} (h : assignIds scripts = .error f) :
    ∃ id, f = .duplicateId id := by
  simp only [assignIds, assign] at h
  split at h
  · rename_i n _
    cases h
    exact ⟨.int n, rfl⟩
  · cases h

theorem rowsOf_error {scripts : List Script} {position : Nat} {f : Fault}
    (h : rowsOf position scripts = .error f) : f = unwritable := by
  induction scripts generalizing position with
  | nil => cases h
  | cons s rest ih =>
    simp only [rowsOf, textOf] at h
    split at h
    · cases hrest : rowsOf (position + 1) rest with
      | error g =>
        rw [hrest] at h
        cases h
        exact ih hrest
      | ok rows =>
        rw [hrest] at h
        cases h
    · cases h
      rfl

theorem rowFault?_cases {refused : List Int} {row : Row} {f : Fault}
    (h : rowFault? refused row = some f) :
    (f = tooLarge ∧ inRange row.key = false) ∨ (f = .refusedRow ∧ inRange row.key = true) := by
  unfold rowFault? at h
  cases hr : inRange row.key with
  | false =>
    simp only [hr, Bool.not_false, if_true, Option.some.injEq] at h
    exact .inl ⟨h.symm, rfl⟩
  | true =>
    simp only [hr, Bool.not_true, Bool.false_eq_true, if_false] at h
    split at h
    · cases h
      exact .inr ⟨rfl, rfl⟩
    · cases h

/-- Up to the first row whose id is no row key, the database takes what is in range. -/
theorem taken_eq_of_tooLarge {refused : List Int} {rows : List Row}
    (h : rows.findSome? (rowFault? refused) = some tooLarge) :
    taken refused rows = rows.takeWhile fun row => inRange row.key := by
  induction rows with
  | nil => cases h
  | cons row rest ih =>
    rw [List.findSome?_cons] at h
    cases hrow : rowFault? refused row with
    | some f =>
      rw [hrow] at h
      cases h
      rcases rowFault?_cases hrow with ⟨-, hr⟩ | ⟨hf, -⟩
      · simp [taken, hrow, hr]
      · cases hf
    | none =>
      rw [hrow] at h
      have hr : inRange row.key = true := by
        unfold rowFault? at hrow
        split at hrow
        · cases hrow
        · simp_all
      have := ih h
      simp_all [taken]

theorem saveScripts_ends {d : Database} (hd : d.Live) (scripts : List Script) :
    SaveEnds d scripts (runOn (saveScripts scripts) d) := by
  rw [runOn_saveScripts hd]
  cases hids : assignIds scripts with
  | error f =>
    obtain ⟨id, rfl⟩ := assignIds_error hids
    exact .duplicate id
  | ok withIds =>
    dsimp only
    cases hrows : rowsOf 0 withIds with
    | error f =>
      exact .halfway (.inr (rowsOf_error hrows)) (by simp [written, hids, hrows])
    | ok rows =>
      dsimp only
      cases hstop : rows.findSome? (rowFault? d.refused) with
      | none => exact .committed withIds _
      | some f =>
        obtain ⟨row, -, hrow⟩ := List.exists_of_findSome?_eq_some hstop
        rcases rowFault?_cases hrow with ⟨rfl, -⟩ | ⟨rfl, -⟩
        · exact .halfway (.inl rfl) (by simp [written, hids, hrows, taken_eq_of_tooLarge hstop])
        · exact .refused

/-- What a call that is no save can do to the tables: the connection goes on, it is dropped, or all
that it sees is stored. -/
inductive Quiet (d e : Database) : Prop where
  | kept : e.seen = d.seen → e.disk = d.disk → Quiet d e
  | dropped : e.seen = d.disk → e.disk = d.disk → Quiet d e
  | stored : e.seen.scripts = d.seen.scripts → e.disk = e.seen → Quiet d e

theorem Quiet.opened (d : Database) : Quiet d d.opened := .kept rfl rfl

end Database

/-! ## Calls after a save -/

namespace Store

open Database (Live Quiet SaveEnds StopsHalfway written scriptsIn)

def shown (s : Store) : Except Fault (List Script) := (runOn Store.catalog s).1

/-- Whatever is asked of the store, short of a save, the catalog goes on to read as `answer`. -/
def KeepsShowing (answer : Except Fault (List Script)) (s : Store) : Prop :=
  ∀ calls : List Call, (∀ c ∈ calls, c.isSave = false) → (after calls s).shown = answer

theorem shown_upon {d : Database} (hd : d.Live) (n : Nat) :
    (upon d n).shown = scriptsIn d.seen.scripts := by
  rw [shown, runOn_catalog_upon, Database.runOn_catalog hd]

theorem perform_quiet {c : Call} (hc : c.isSave = false) {d : Database} (hd : d.Live) (n : Nat)
    (time : Nat → Json := counting) :
    ∃ e m, (perform c (upon d n time)).2 = upon e m time ∧ e.Live ∧ Quiet d e := by
  have opened (m : Nat) : ∃ e k, upon d.opened m time = upon e k time ∧ e.Live ∧ Quiet d e :=
    ⟨d.opened, m, rfl, d.live_opened, .opened d⟩
  have stored (t : Tables) (ht : t.scripts = d.seen.scripts) (m : Nat) :
      ∃ e k, upon (d.committed t) m time = upon e k time ∧ e.Live ∧ Quiet d e :=
    ⟨d.committed t, m, rfl, d.live_committed t, .stored ht rfl⟩
  cases c with
  | save scripts => cases hc
  | add script => cases hc
  | catalog =>
    rw [perform_catalog hd]
    exact opened n
  | settings =>
    rw [perform_settings hd]
    exact opened n
  | runs =>
    rw [perform_runs hd]
    exact opened n
  | saveSettings settings =>
    rw [perform_saveSettings hd]
    split
    · exact opened n
    · rename_i text _
      split
      · exact stored { d.seen with
          settings := Fields.set Database.settingsKey text d.seen.settings } rfl n
      · exact opened n
  | record id ok error =>
    rw [perform_record hd]
    split
    · split
      · exact opened n
      · split
        · exact opened (n + 1)
        · rename_i text _
          split
          · exact stored { d.seen with runs := Database.setRun id text d.seen.runs } rfl (n + 1)
          · exact opened (n + 1)
    · exact opened n
  | reopen => exact ⟨d.close, n, rfl, d.live_close, .dropped rfl rfl⟩
  | refuse id => exact ⟨d.refuse id, n, rfl, hd, .kept rfl rfl⟩

/-- Reads stay the same if and only if the connection and the disk show the same now: a commit
brings what the connection shows to the disk, and closing does the opposite. -/
theorem keepsShowing_iff {d : Database} (hd : d.Live) (n : Nat)
    {answer : Except Fault (List Script)} :
    KeepsShowing answer (upon d n) ↔
      scriptsIn d.seen.scripts = answer ∧ scriptsIn d.disk.scripts = answer := by
  constructor
  · intro h
    have hseen : (upon d n).shown = answer := h [] (by simp)
    have hdisk : (upon d.close n).shown = answer := h [.reopen] (by simp [Call.isSave])
    rw [shown_upon hd] at hseen
    rw [shown_upon d.live_close] at hdisk
    exact ⟨hseen, hdisk⟩
  · rintro ⟨hseen, hdisk⟩ calls hcalls
    induction calls generalizing d n with
    | nil => exact (shown_upon hd n).trans hseen
    | cons c rest ih =>
      obtain ⟨hc, hrest⟩ : c.isSave = false ∧ ∀ c ∈ rest, c.isSave = false := by
        simpa using hcalls
      obtain ⟨e, m, heq, he, hquiet⟩ := perform_quiet hc hd n
      simp only [after, heq]
      cases hquiet with
      | kept hs hdk => exact ih he m (by rw [hs, hseen]) (by rw [hdk, hdisk]) hrest
      | dropped hs hdk => exact ih he m (by rw [hs, hdisk]) (by rw [hdk, hdisk]) hrest
      | stored hs hdk => exact ih he m (by rw [hs, hseen]) (by rw [hdk, hs, hseen]) hrest

/-! ## Calls before a save -/

/-- A save leaves a live connection, with nothing left to commit unless it stopped halfway. -/
theorem SaveEnds.settled {d : Database} (hd : d.Live) {scripts : List Script}
    {r : Except Fault (List Script) × Database} (h : SaveEnds d scripts r) :
    r.2.Live ∧ (d.seen = d.disk → (∀ f, r.1 = .error f → ¬ StopsHalfway f) →
      r.2.seen = r.2.disk) := by
  cases h with
  | committed saved t => exact ⟨d.live_committed t, fun _ _ => rfl⟩
  | duplicate id => exact ⟨hd, fun hseen _ => hseen⟩
  | refused => exact ⟨d.live_holding d.disk, fun _ _ => rfl⟩
  | halfway hf _ => exact ⟨d.live_holding _, fun _ hno => absurd hf (hno _ rfl)⟩

/-- Every call leaves a live connection, with nothing left to commit unless it is a save that
stopped halfway. -/
theorem perform_settled {d : Database} (hd : d.Live) (c : Call) (n : Nat) :
    ∃ e m, (perform c (upon d n)).2 = upon e m ∧ e.Live ∧
      (d.seen = d.disk →
        (c.isSave = true → ∀ f, (perform c (upon d n)).1 = .error f → ¬ StopsHalfway f) →
        e.seen = e.disk) := by
  cases hc : c.isSave with
  | false =>
    obtain ⟨e, m, heq, he, hquiet⟩ := perform_quiet hc hd n
    refine ⟨e, m, heq, he, fun hseen _ => ?_⟩
    -- Without a save, connection and disk move together if they move at all.
    cases hquiet with
    | kept hs hdk => rw [hs, hdk, hseen]
    | dropped hs hdk => rw [hs, hdk]
    | stored hs hdk => exact hdk.symm
  | true =>
    cases c with
    | save scripts =>
      obtain ⟨hlive, hsettled⟩ := SaveEnds.settled hd (Database.saveScripts_ends hd scripts)
      rw [perform_save]
      refine ⟨_, n, rfl, hlive, fun hseen hno => hsettled hseen fun f hf => ?_⟩
      exact hno rfl f (by rw [hf]; rfl)
    | add script =>
      rw [perform_add hd]
      cases scriptsIn d.seen.scripts with
      | error f => exact ⟨d.opened, n, rfl, d.live_opened, fun hseen _ => hseen⟩
      | ok scripts =>
        obtain ⟨hlive, hsettled⟩ := SaveEnds.settled d.live_opened
          (Database.saveScripts_ends d.live_opened (scripts ++ [script]))
        refine ⟨_, n, rfl, hlive, fun hseen hno => hsettled hseen fun f hf => ?_⟩
        exact hno rfl f (by simp only [hf]; rfl)
    | _ => cases hc

/-- Every history leaves a live connection, with nothing left to commit if no save in it stopped
halfway. -/
theorem after_settled {d : Database} (hd : d.Live) (history : List Call) (n : Nat) :
    ∃ e m, after history (upon d n) = upon e m ∧ e.Live ∧
      (d.seen = d.disk →
        (∀ p ∈ transcript history (upon d n), p.1.isSave = true →
          ∀ f, p.2 = .error f → ¬ StopsHalfway f) →
        e.seen = e.disk) := by
  induction history generalizing d n with
  | nil => exact ⟨d, n, rfl, hd, fun hseen _ => hseen⟩
  | cons c rest ih =>
    obtain ⟨d₁, n₁, heq₁, hd₁, hsettled₁⟩ := perform_settled hd c n
    obtain ⟨e, m, heq, he, hsettled⟩ := ih hd₁ n₁
    refine ⟨e, m, by rw [after, heq₁, heq], he, fun hseen hno => ?_⟩
    simp only [transcript, List.forall_mem_cons, heq₁] at hno
    exact hsettled (hsettled₁ hseen hno.1) hno.2

/-- When a failed save is undone for good. Let the store have any history on any file, and let a
save fail. Then the catalog goes on to read as before, whatever is asked next short of a save, if
and only if closing the store before the save would not have shown another catalog, and the save,
if it stopped halfway, stopped with rows that read as the catalog did. The first holds whenever no
earlier save stopped halfway. -/
theorem failed_save_keeps_catalog_iff (file : Tables) (clock : Nat) (history : List Call)
    (scripts : List Script) {f : Fault} {s s' : Store} (hs : s = after history (onFile file clock))
    (hfail : runOn (saveScripts scripts) s = (.error f, s')) :
    (KeepsShowing s.shown s' ↔
      s.close.shown = s.shown ∧ (StopsHalfway f → scriptsIn (written scripts) = s.shown)) ∧
    ((∀ p ∈ transcript history (onFile file clock), p.1.isSave = true →
        ∀ g, p.2 = .error g → ¬ StopsHalfway g) →
      s.close.shown = s.shown) := by
  have hfile : (Database.mk file .closed []).Live := by
    intro h
    cases h
  obtain ⟨d, n, heq, hd, hsettled⟩ := after_settled hfile history clock
  have hs' : s = upon d n := hs.trans heq
  subst hs'
  have hclose : (upon d n).close.shown = scriptsIn d.disk.scripts := shown_upon d.live_close n
  rw [hclose, shown_upon hd]
  refine ⟨?_, fun hno => by rw [hsettled rfl hno]⟩
  rw [runOn_saveScripts_upon] at hfail
  have hends := Database.saveScripts_ends hd scripts
  generalize runOn (Database.saveScripts scripts) d = r at hfail hends
  -- Each way to end says what connection and disk show, and these two decide what is read from then on.
  cases hends with
  | committed saved t => cases hfail
  | duplicate id =>
    cases hfail
    rw [keepsShowing_iff hd]
    constructor
    · rintro ⟨-, hdisk⟩
      refine ⟨hdisk, fun hf => ?_⟩
      rcases hf with hf | hf <;> cases hf
    · rintro ⟨hdisk, -⟩
      exact ⟨rfl, hdisk⟩
  | refused =>
    cases hfail
    rw [keepsShowing_iff (d.live_holding d.disk)]
    constructor
    · rintro ⟨hdisk, -⟩
      refine ⟨hdisk, fun hf => ?_⟩
      rcases hf with hf | hf <;> cases hf
    · rintro ⟨hdisk, -⟩
      exact ⟨hdisk, hdisk⟩
  | halfway hf hwritten =>
    cases hfail
    rw [keepsShowing_iff (d.live_holding _), Database.seen_holding, Database.disk_holding, hwritten]
    constructor
    · rintro ⟨hseen, hdisk⟩
      exact ⟨hdisk, fun _ => hseen⟩
    · rintro ⟨hdisk, hseen⟩
      exact ⟨hseen hf, hdisk⟩

/-- A catalog of one script is gone for good after a save that failed at an id beyond 64 bits. -/
theorem failed_save_loses_catalog :
    ∃ s', runOn (saveScripts [{ id := some 0x8000000000000000 }])
        (after [.save [{ id := some 1, code := .str "pass" }]] (onFile {} 0)) =
          (.error Database.tooLarge, s') ∧
      ¬ KeepsShowing (after [.save [{ id := some 1, code := .str "pass" }]] (onFile {} 0)).shown s' := by
  have hwritable : (Datum.ofJson ({ id := some 0x8000000000000000 } : Script).toJson).isWritable := by
    decide +kernel
  have hshown : (after [.save [{ id := some 1, code := .str "pass" }]] (onFile {} 0)).shown.toOption.map
      List.length = some 1 := by
    decide +kernel
  have hfile : (Database.mk {} .closed []).Live := by
    intro h
    cases h
  obtain ⟨d, n, heq, hd, -⟩ := after_settled hfile [.save [{ id := some 1, code := .str "pass" }]] 0
  have hrows : Database.rowsOf 0 [{ id := some 0x8000000000000000 }] = .ok
      [⟨0x8000000000000000, 0, ({ id := some 0x8000000000000000 } : Script).toJson.text⟩] := by
    simp only [Database.rowsOf, Database.textOf, if_pos hwritable]
    rfl
  have hids : assignIds [{ id := some 0x8000000000000000 }] =
      .ok [{ id := some 0x8000000000000000 }] := rfl
  have hfail : ∃ s', runOn (saveScripts [{ id := some 0x8000000000000000 }]) (upon d n) =
      (.error Database.tooLarge, s') := by
    rw [runOn_saveScripts_upon, Database.runOn_saveScripts hd, hids]
    dsimp only
    rw [hrows]
    exact ⟨_, rfl⟩
  obtain ⟨s', hfail⟩ := hfail
  have hiff := (failed_save_keeps_catalog_iff {} 0 [.save [{ id := some 1, code := .str "pass" }]]
    [{ id := some 0x8000000000000000 }] heq.symm hfail).1
  rw [onFile, heq] at hshown ⊢
  refine ⟨s', hfail, fun hkeeps => ?_⟩
  have hempty := (hiff.1 hkeeps).2 (.inl rfl)
  have hnone : written [{ id := some 0x8000000000000000 }] = [] := by
    simp only [written, hids, hrows]
    rfl
  have hread : scriptsIn [] = .ok [] := by
    simp only [scriptsIn, List.mergeSort_nil]
    rfl
  rw [← hempty, hnone, hread] at hshown
  cases hshown

end Store
end Userscript.Catalog
