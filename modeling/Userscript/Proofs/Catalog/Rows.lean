import Mathlib.Data.List.Forall2
import Userscript.Proofs.Catalog.Memory

/-!
# Userscript.Proofs.Catalog.Rows

The rows in which a database keeps scripts, records and settings, and what is read from them.

* `rowsAt` are the rows of a catalog. If text keeps its scripts (`IsKeyed`), they can be written and inserted
  (`runOn_saveScripts_keyed`), and are read from them in normal form, in the same order (`scriptsIn_rowsAt_keyed`);
* `runRows` are the rows of a ledger. A record is set in them as it is set in the ledger (`setRun_runRows`), and
  the same ledger is read from them, in the order of the ids (`ledgerIn_runRows`);
* settings can be written if their theme can (`settingsText_eq`), and come back as the database gives them
  (`settingsIn_set`).
-/

namespace Userscript.Catalog

/-! ## Rows of saved scripts -/

namespace Database

/-- The rows of scripts in catalog order, the first one at `position`. -/
def rowsAt (position : Nat) : List Script → List Row
  | [] => []
  | s :: rest => ⟨s.id.getD 0, position, s.toJson.text⟩ :: rowsAt (position + 1) rest

/-- A script as a catalog may write it: text keeps its data, and its id is a row key. -/
structure IsKeyed (s : Script) : Prop where
  kept : s.Kept
  id : ∃ n, s.id = some n ∧ inRange n = true

/-- A script as a catalog holds it: it is normal, and its id is a row key. -/
structure IsSaved (s : Script) : Prop where
  normal : s.IsNormal
  id : ∃ n, s.id = some n ∧ inRange n = true

theorem IsSaved.keyed {s : Script} (h : IsSaved s) : IsKeyed s := ⟨h.normal.kept, h.id⟩

theorem IsKeyed.normal {s : Script} (h : IsKeyed s) : IsSaved s.normal := ⟨Script.isNormal_normal h.kept, h.id⟩

variable {l : List Script} {position : Nat}

theorem IsKeyed.isKept {s : Script} (h : IsKeyed s) : s.toJson.IsKept := by
  obtain ⟨n, hn, hrange⟩ := h.id
  refine Script.isKept_toJson h.kept fun k hk => ?_
  rw [hn] at hk
  cases hk
  exact Json.isShort_of_inRange hrange

theorem rowsOf_keyed (h : ∀ s ∈ l, IsKeyed s) : rowsOf position l = .ok (rowsAt position l) := by
  induction l generalizing position with
  | nil => rfl
  | cons s rest ih =>
    rw [List.forall_mem_cons] at h
    rw [rowsOf, h.1.isKept.textOf, ih h.2]
    rfl

theorem rowFault?_rowsAt (h : ∀ s ∈ l, IsKeyed s) : (rowsAt position l).findSome? (rowFault? []) = none := by
  induction l generalizing position with
  | nil => rfl
  | cons s rest ih =>
    rw [List.forall_mem_cons] at h
    obtain ⟨n, hn, hrange⟩ := h.1.id
    have hrow : rowFault? [] ⟨s.id.getD 0, position, s.toJson.text⟩ = none := by
      simp [rowFault?, hn, hrange, h.1.isKept.isStored]
    rw [rowsAt, List.findSome?_cons, hrow]
    exact ih h.2

theorem le_position_of_mem {row : Row} (h : row ∈ rowsAt position l) : position ≤ row.position := by
  induction l generalizing position with
  | nil => cases h
  | cons s rest ih =>
    rw [rowsAt, List.mem_cons] at h
    rcases h with rfl | h
    · exact Int.le_refl _
    · have := ih h
      omega

theorem pairwise_rowsAt : (rowsAt position l).Pairwise fun a b => before a b = true := by
  induction l generalizing position with
  | nil => exact .nil
  | cons s rest ih =>
    refine .cons (fun row hrow => ?_) ih
    have hposition := le_position_of_mem hrow
    simp only [before, Bool.or_eq_true, decide_eq_true_eq]
    exact .inl (by omega)

theorem mapM_eq_ok {α β : Type} {f : α → Except Fault β} {as : List α} {bs : List β}
    (h : List.Forall₂ (fun a b => f a = .ok b) as bs) : as.mapM f = .ok bs := by
  induction h with
  | nil => rfl
  | cons hab _ ih =>
    rw [List.mapM_cons, hab, ih]
    rfl

/-- Scripts are read from their rows in normal form. -/
theorem scriptsIn_rowsAt_keyed (h : ∀ s ∈ l, IsKeyed s) : scriptsIn (rowsAt position l) = .ok (l.map .normal) := by
  rw [scriptsIn, List.mergeSort_of_pairwise pairwise_rowsAt]
  apply mapM_eq_ok
  induction l generalizing position with
  | nil => exact .nil
  | cons s rest ih =>
    rw [List.forall_mem_cons] at h
    refine .cons ?_ (ih h.2)
    dsimp only
    rw [h.1.isKept.load]
    exact Script.ofJson_toJson s

theorem map_normal (h : ∀ s ∈ l, IsSaved s) : l.map .normal = l :=
  (List.map_congr_left fun s hs => (h s hs).normal.normal_eq).trans (List.map_id' l)

/-- Saved scripts are read from their rows. -/
theorem scriptsIn_rowsAt (h : ∀ s ∈ l, IsSaved s) : scriptsIn (rowsAt position l) = .ok l := by
  rw [scriptsIn_rowsAt_keyed fun s hs => (h s hs).keyed, map_normal h]

theorem runOn_saveScripts_keyed {d : Database} (hd : d.Live) (hrefused : d.refused = []) {scripts : List Script}
    (hids : assignIds scripts = .ok l) (h : ∀ s ∈ l, IsKeyed s) :
    runOn (saveScripts scripts) d = (.ok l, d.committed { d.seen with scripts := rowsAt 0 l }) := by
  rw [runOn_saveScripts hd, hids]
  dsimp only
  rw [rowsOf_keyed h]
  dsimp only
  rw [hrefused, rowFault?_rowsAt h]

/-! ## Rows of the runs -/

/-- The record in a row that can be read. -/
def recorded (text : String) : RunRecord := (load text >>= RunRecord.ofJson).toOption.getD {}

/-- The record of a script in rows of the ledger. -/
def recordAt (id : Int) (rows : List (Int × String)) : Option RunRecord :=
  (rows.find? (·.1 = id)).map fun row => recorded row.2

/-- The ledger in rows that can be read, in the order of the ids. -/
def ledgerOf (rows : List (Int × String)) : List (Int × RunRecord) :=
  (rows.mergeSort fun a b => a.1 ≤ b.1).map fun row => (row.1, recorded row.2)

/-- A row that can be read, step by step. -/
theorem load_of_read {text : String} (h : load text >>= RunRecord.ofJson = .ok (recorded text)) :
    ∃ v, load text = .ok v ∧ RunRecord.ofJson v = .ok (recorded text) := bind_eq_ok h

section Rows

variable {t : Tables} {rows : List (Int × String)} (ht : t.runs = rows)
  (h : ∀ row ∈ rows, load row.2 >>= RunRecord.ofJson = .ok (recorded row.2))

include ht h

theorem recordIn_eq (id : Int) : recordIn id t = .ok (recordAt id rows) := by
  rw [recordIn, recordAt, ht]
  cases found : rows.find? (·.1 = id) with
  | none => rfl
  | some row =>
    obtain ⟨v, hv, hr⟩ := load_of_read (h row (List.mem_of_find?_eq_some found))
    dsimp only [Option.map_some]
    rw [hv]
    dsimp only [bind, Except.bind]
    rw [hr]
    rfl

theorem ledgerIn_eq : ledgerIn t = .ok (ledgerOf rows) := by
  rw [ledgerIn, ledgerOf, ht]
  apply mapM_eq_ok
  rw [List.forall₂_map_right_iff, List.forall₂_same]
  intro row hrow
  obtain ⟨v, hv, hr⟩ := load_of_read (h row (List.mem_mergeSort.1 hrow))
  dsimp only
  rw [hv]
  dsimp only [bind, Except.bind]
  rw [hr]
  rfl

end Rows

def runRows (runs : List (Int × RunRecord)) : List (Int × String) := runs.map fun e => (e.1, e.2.toJson.text)

variable {runs : List (Int × RunRecord)} {id : Int} {r : RunRecord}

theorem setRun_runRows : setRun id r.toJson.text (runRows runs) = runRows (Store.setRecord id r runs) := by
  induction runs with
  | nil => rfl
  | cons e rest ih =>
    obtain ⟨k, old⟩ := e
    by_cases hk : k = id
    · simp [runRows, setRun, Store.setRecord, hk]
    · have htail : setRun id r.toJson.text (runRows rest) = runRows (Store.setRecord id r rest) := ih
      simp only [runRows, List.map_cons, setRun, Store.setRecord, hk, if_false] at htail ⊢
      rw [htail]

/-- A record with nothing but its own fields is read from its text. -/
theorem read_own (h : r.IsOwn) :
    load r.toJson.text >>= RunRecord.ofJson = .ok r ∧ recorded r.toJson.text = r := by
  have read : load r.toJson.text >>= RunRecord.ofJson = .ok r := by
    rw [h.isKept.load]
    exact RunRecord.ofJson_toJson h
  rw [recorded, read]
  exact ⟨rfl, rfl⟩

theorem read_runRows (h : ∀ e ∈ runs, e.2.IsOwn) :
    ∀ row ∈ runRows runs, load row.2 >>= RunRecord.ofJson = .ok (recorded row.2) := by
  intro row hrow
  obtain ⟨e, he, rfl⟩ := List.mem_map.1 hrow
  obtain ⟨read, same⟩ := read_own (h e he)
  dsimp only
  rw [read, same]

theorem recordIn_runRows {t : Tables} (ht : t.runs = runRows runs) (h : ∀ e ∈ runs, e.2.IsOwn) :
    recordIn id t = .ok (Store.recordOf id runs) := by
  rw [recordIn_eq ht (read_runRows h), recordAt, runRows, List.find?_map, Option.map_map, Store.recordOf]
  congr 1
  cases hown : runs.find? (·.1 = id) with
  | none => exact congrArg (Option.map _) hown
  | some e =>
    refine (congrArg (Option.map _) hown).trans ?_
    exact congrArg some (read_own (h e (List.mem_of_find?_eq_some hown))).2

theorem ledgerIn_runRows {t : Tables} (ht : t.runs = runRows runs) (h : ∀ e ∈ runs, e.2.IsOwn) :
    ledgerIn t = .ok (runs.mergeSort fun a b => a.1 ≤ b.1) := by
  have sorted : (runRows runs).mergeSort (fun a b => a.1 ≤ b.1) = runRows (runs.mergeSort fun a b => a.1 ≤ b.1) := by
    symm
    apply List.map_mergeSort
    intros
    rfl
  have same : ∀ e ∈ runs.mergeSort fun a b => a.1 ≤ b.1, (e.1, recorded e.2.toJson.text) = e := fun e he =>
    congrArg (Prod.mk e.1) (read_own (h e (List.mem_mergeSort.1 he))).2
  rw [ledgerIn_eq ht (read_runRows h), ledgerOf, sorted, runRows, List.map_map]
  exact congrArg Except.ok ((List.map_congr_left same).trans (List.map_id' _))

/-! ## Settings -/

section Settings

variable {s : Settings} (h : s.theme.Writable)

include h

theorem settingsText_eq : settingsText s = .ok s.normal.toJson.text := by
  rw [settingsText, Settings.ofJson_toJson]
  exact if_pos (Datum.isWritable_ofJson (Settings.writable_toJson (Settings.writable_normal h)))

theorem settingsIn_set {t : Tables} :
    settingsIn { t with settings := Fields.set settingsKey s.normal.toJson.text t.settings } = .ok s.reread := by
  rw [settingsIn]
  dsimp only
  rw [Fields.get?_set_self]
  dsimp only
  rw [load_text (Settings.writable_toJson (Settings.writable_normal h))]
  change Settings.ofJson s.normal.toJson.image = _
  rw [Settings.image_toJson, Settings.ofJson_toJson]
  rfl

end Settings

end Database

end Userscript.Catalog
