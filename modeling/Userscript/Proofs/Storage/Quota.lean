import Mathlib.Algebra.GroupWithZero.Nat
import Userscript.Proofs.Json.Fields
import Userscript.Proofs.Storage.Areas

/-!
# Userscript.Proofs.Storage.Quota

The books of a storage: what an area is said to hold is what its entries hold, and it is never more than
the quota.

The count of bytes is carried along and never made anew, so the claim is about whole histories.

* `Operation` is one operation, `afterAll` and `answers` what operations in a row leave and answer;
* `Area.Sound` is the invariant of one area, `Sound.perform` the step, `sound_afterAll` the history;
* `quota_accounting`: the books are right after any history, and a value is refused exactly if it is too much.
-/

namespace Userscript

namespace Area

/-- The bytes of UTF-8 in entries, keys and values together. -/
def bytesOf (entries : Fields String) : Nat := (entries.map fun e => e.1.utf8ByteSize + e.2.utf8ByteSize).sum

variable {a : Area} {quota : Int} {key value : String}

theorem size_eq (a : Area) : a.size = bytesOf a.entries := by
  obtain ⟨entries, used⟩ := a
  induction entries with
  | nil => rfl
  | cons entry rest ih =>
    rw [size_cons _ _ _ _ used, ih]
    rfl

/-- What an entry holds is missing when it is gone. -/
theorem bytesOf_erase (key : String) (distinct : (a.entries.map (·.1)).Nodup) :
    bytesOf (Fields.erase key a.entries) + a.held key = bytesOf a.entries := by
  obtain ⟨entries, used⟩ := a
  simp only [held] at distinct ⊢
  induction entries with
  | nil => rfl
  | cons entry rest ih =>
    obtain ⟨k, v⟩ := entry
    rw [List.map_cons, List.nodup_cons] at distinct
    by_cases hk : k = key
    · subst hk
      have rest_kept : Fields.erase k rest = rest := by
        rw [Fields.erase, List.filter_eq_self]
        intro entry mem
        exact decide_eq_true fun same => distinct.1 (List.mem_map.mpr ⟨entry, mem, same⟩)
      have head_gone : Fields.erase k ((k, v) :: rest) = Fields.erase k rest := List.filter_cons_of_neg (by simp)
      rw [head_gone, rest_kept, Fields.get?, if_pos rfl]
      exact Nat.add_comm _ _
    · have head_kept : Fields.erase key ((k, v) :: rest) = (k, v) :: Fields.erase key rest :=
        List.filter_cons_of_pos (by simp [hk])
      rw [head_kept, Fields.get?, if_neg hk, bytesOf, bytesOf, List.map_cons, List.map_cons, List.sum_cons,
        List.sum_cons, Nat.add_assoc]
      exact congrArg _ (ih distinct.2)

/-- The books of an area are right: each key has one entry, the count of bytes is that of the entries, and there is
an entry only within the quota. -/
structure Sound (quota : Int) (a : Area) : Prop where
  counted : a.Counted
  distinct : (a.entries.map (·.1)).Nodup
  within : a.entries ≠ [] → (a.used : Int) ≤ quota

theorem sound_empty (quota : Int) : Sound quota {} := ⟨rfl, List.nodup_nil, fun some => absurd rfl some⟩

namespace Sound

theorem used_eq (h : a.Sound quota) : a.used = bytesOf a.entries := h.counted.trans a.size_eq

/-- What an area would hold with a value: all its other entries, and the new one. -/
theorem needed_eq (h : a.Sound quota) (key value : String) :
    a.needed key value = bytesOf ((key, value) :: Fields.erase key a.entries) := by
  have without := bytesOf_erase key h.distinct
  have entry : bytesOf ((key, value) :: Fields.erase key a.entries) =
      entrySize key value + bytesOf (Fields.erase key a.entries) := rfl
  rw [needed, h.used_eq, entry]
  omega

theorem set (h : a.Sound quota) (room : (a.needed key value : Int) ≤ quota) : (a.set key value).Sound quota :=
  ⟨h.counted.set key value, Fields.nodup_set h.distinct, fun _ => room⟩

theorem remove (h : a.Sound quota) : (a.remove key).Sound quota := by
  have without := bytesOf_erase key h.distinct
  have used := h.used_eq
  refine ⟨?_, Fields.nodup_erase h.distinct, ?_⟩
  · rw [Counted, size_eq]
    change a.used - a.held key = bytesOf (Fields.erase key a.entries)
    omega
  · intro left
    have there : a.entries ≠ [] := by
      intro none
      rw [Area.remove, none] at left
      exact left rfl
    have within := h.within there
    change ((a.used - a.held key : Nat) : Int) ≤ quota
    omega

end Sound
end Area

namespace Storage

variable {s t : Storage} {origin other key value : String}

/-! ## Areas -/

theorem area_remove : (s.remove origin key).area other =
    if other = origin then (s.area origin).remove key else s.area other := by
  cases found : Fields.get? origin s.areas with
  | none =>
    have unknown : s.remove origin key = s := by rw [remove, found]
    have empty : s.area origin = {} := by
      rw [area, found]
      rfl
    rw [unknown, empty]
    split
    · next same =>
      rw [same, empty]
      rfl
    · rfl
  | some a =>
    have known : s.remove origin key = { s with areas := Fields.set origin (a.remove key) s.areas } := by
      rw [remove, found]
    have there : s.area origin = a := by
      rw [area, found]
      rfl
    rw [known, there]
    exact area_areas_set other _ s s.quota

theorem area_clear : (s.clear origin).area other = if other = origin then {} else s.area other := by
  unfold clear area
  split
  · next same =>
    rw [same, Fields.get?_erase_self]
    rfl
  · next apart => rw [Fields.get?_erase_of_ne _ apart]

theorem area_set_of_ne (apart : other ≠ origin) : (s.set origin key value).2.area other = s.area other := by
  unfold Storage.set
  dsimp only
  split
  all_goals
    rw [area_areas_set, if_neg apart]

/-! ## Operations -/

inductive Operation where
  | set (origin key value : String)
  | remove (origin key : String)
  | clear (origin : String)
  | clearAll
  | get (origin key : String)
  | used (origin : String)

inductive Answer where
  | done
  | value (found : Option String)
  | bytes (n : Nat)
  | refused (f : Fault)

namespace Operation

/-- What an operation answers, and the storage after it. -/
def perform : Operation → Storage → Answer × Storage
  | .set origin key value, s =>
    match s.set origin key value with
    | (.ok _, s) => (.done, s)
    | (.error f, s) => (.refused f, s)
  | .remove origin key, s => (.done, s.remove origin key)
  | .clear origin, s => (.done, s.clear origin)
  | .clearAll, s => (.done, s.clearAll)
  | .get origin key, s => (.value (s.get? origin key), s)
  | .used origin, s => (.bytes (s.used origin), s)

def origin? : Operation → Option String
  | .set origin .. | .remove origin _ | .clear origin | .get origin _ | .used origin => some origin
  | .clearAll => none

theorem perform_set_snd : ((Operation.set origin key value).perform s).2 = (s.set origin key value).2 := by
  rw [perform]
  split
  · next h => rw [h]
  · next h => rw [h]

/-- An operation on one origin changes nothing of another. -/
theorem area_perform {op : Operation} (on : op.origin? = some origin) (apart : other ≠ origin) :
    (op.perform s).2.area other = s.area other := by
  cases op with
  | set _ key value =>
    cases on
    rw [perform_set_snd]
    exact area_set_of_ne apart
  | remove _ key =>
    cases on
    exact area_remove.trans (if_neg apart)
  | clear _ =>
    cases on
    exact area_clear.trans (if_neg apart)
  | clearAll => cases on
  | get | used => rfl

theorem quota_perform (op : Operation) : (op.perform s).2.quota = s.quota := by
  cases op with
  | set origin key value =>
    rw [perform_set_snd]
    exact quota_set
  | remove origin key =>
    rw [perform, Storage.remove]
    split <;> rfl
  | _ => rfl

end Operation

/-- The storage after operations in a row. -/
def afterAll (s : Storage) (operations : List Operation) : Storage :=
  operations.foldl (fun s op => (op.perform s).2) s

def answers (s : Storage) : List Operation → List Answer
  | [] => []
  | op :: rest => (op.perform s).1 :: answers (op.perform s).2 rest

/-! ## The invariant -/

/-- The books of all areas are right. -/
def Sound (s : Storage) : Prop := ∀ origin, (s.area origin).Sound s.quota

namespace Sound

theorem counted (h : s.Sound) : s.Counted := fun origin => (h origin).counted

/-- There is room for a value as long as what the area would hold is within the quota. -/
theorem fits_iff (h : s.Sound) : s.Fits origin key value ↔
    (Area.bytesOf ((key, value) :: Fields.erase key (s.area origin).entries) : Int) ≤ s.quota := by
  rw [Fits, ← (h origin).needed_eq, (h.counted origin).needed]

/-- What setting a value answers. -/
theorem set_eq (h : s.Sound) (origin key value : String) :
    let needed := Area.bytesOf ((key, value) :: Fields.erase key (s.area origin).entries)
    (s.set origin key value).1 =
      if (needed : Int) > s.quota then .error (.quotaExceeded origin needed s.quota) else .ok () := by
  intro needed
  have exact_count : (s.area origin).needed key value = needed := (h origin).needed_eq key value
  unfold Storage.set
  dsimp only
  rw [exact_count]
  split <;> rfl

theorem perform (h : s.Sound) (op : Operation) : (op.perform s).2.Sound := by
  intro o
  rw [op.quota_perform]
  cases op with
  | set origin key value =>
    rw [Operation.perform_set_snd]
    -- What fits is written, and the books stay right because it fits; what does not leaves the areas alone.
    by_cases fits : s.Fits origin key value
    · rw [(h.counted.set_fits fits).2 o]
      split
      · refine (h origin).set ?_
        rw [(h origin).needed_eq]
        exact h.fits_iff.mp fits
      · exact h o
    · rw [(h.counted.set_full fits).2 o]
      exact h o
  | remove origin key =>
    rw [Operation.perform, area_remove]
    split
    · exact (h origin).remove
    · exact h o
  | clear origin =>
    rw [Operation.perform, area_clear]
    split
    · exact Area.sound_empty _
    · exact h o
  | clearAll => exact Area.sound_empty _
  | get | used => exact h o

end Sound

/-- After any history the books are right, and the quota is what it was. -/
theorem sound_afterAll (operations : List Operation) (h : s.Sound) :
    (s.afterAll operations).Sound ∧ (s.afterAll operations).quota = s.quota := by
  induction operations generalizing s with
  | nil => exact ⟨h, rfl⟩
  | cons op rest ih =>
    obtain ⟨sound, quota⟩ := ih (h.perform op)
    exact ⟨sound, quota.trans op.quota_perform⟩

/-! ## Answers -/

/-- Storages that hold the same answer alike, and hold the same afterwards. -/
theorem Same.perform (h : s.Same t) (op : Operation) :
    (op.perform s).1 = (op.perform t).1 ∧ (op.perform s).2.Same (op.perform t).2 := by
  cases op with
  | set origin key value =>
    obtain ⟨answer, after⟩ : (s.set origin key value).1 = (t.set origin key value).1 ∧
        (s.set origin key value).2.Same (t.set origin key value).2 := h.set
    simp only [Operation.perform]
    generalize s.set origin key value = first at *
    generalize t.set origin key value = second at *
    obtain ⟨r, s'⟩ := first
    obtain ⟨r', t'⟩ := second
    cases answer
    cases r with
    | error f => exact ⟨rfl, after⟩
    | ok _ => exact ⟨rfl, after⟩
  | remove origin key =>
    refine ⟨rfl, ?_, fun o => ?_⟩
    · rw [Operation.quota_perform, Operation.quota_perform, h.quota]
    · simp only [Operation.perform, area_remove, h.area]
  | clear origin =>
    refine ⟨rfl, h.quota, fun o => ?_⟩
    simp only [Operation.perform, area_clear, h.area]
  | clearAll => exact ⟨rfl, h.quota, fun _ => rfl⟩
  | get origin key =>
    refine ⟨?_, h⟩
    simp only [Operation.perform, get?, h.area]
  | used origin =>
    refine ⟨?_, h⟩
    simp only [Operation.perform, used, h.area]

theorem Same.answers (h : s.Same t) (operations : List Operation) : s.answers operations = t.answers operations := by
  induction operations generalizing s t with
  | nil => rfl
  | cons op rest ih =>
    obtain ⟨answer, after⟩ := h.perform op
    rw [Storage.answers, Storage.answers, answer, ih after]

/-- The books of a storage, after any history of operations.

Each key of an area has one entry, which is what is read under it; the area is said to hold the bytes of its
entries, and as long as there is one it holds no more than the quota. A value is refused if and only if its area would
hold more than the quota with the value in place of the old one. What is refused changes no answer that is given
later; what is accepted is read back, and what is removed or cleared is gone. An operation on one origin changes
nothing of another. -/
theorem quota_accounting (quota : Int) (operations : List Operation) :
    let s := afterAll ⟨quota, []⟩ operations
    (∀ origin, ((s.area origin).entries.map (·.1)).Nodup ∧
      (∀ key value, s.get? origin key = some value ↔ (key, value) ∈ (s.area origin).entries) ∧
      s.used origin = Area.bytesOf (s.area origin).entries ∧
      ((s.area origin).entries ≠ [] → (s.used origin : Int) ≤ quota)) ∧
    (∀ origin key value,
      let needed := Area.bytesOf ((key, value) :: Fields.erase key (s.area origin).entries)
      let t := (s.set origin key value).2
      (s.set origin key value).1 =
        (if (needed : Int) > quota then .error (.quotaExceeded origin needed quota) else .ok ()) ∧
      ((needed : Int) > quota → ∀ later, t.answers later = s.answers later) ∧
      ((needed : Int) ≤ quota → ∀ k, t.get? origin k = if k = key then some value else s.get? origin k)) ∧
    (∀ origin key k, (s.remove origin key).get? origin k = if k = key then none else s.get? origin k) ∧
    (∀ origin k, (s.clear origin).get? origin k = none ∧ s.clearAll.get? origin k = none) ∧
    ∀ (op : Operation) origin other, op.origin? = some origin → other ≠ origin →
      (op.perform s).2.area other = s.area other := by
  -- Nothing is known of the history any more but that the books are right.
  obtain ⟨sound, kept⟩ := sound_afterAll operations (s := ⟨quota, []⟩) fun _ => Area.sound_empty quota
  generalize afterAll ⟨quota, []⟩ operations = s at *
  obtain rfl : s.quota = quota := kept
  refine ⟨fun origin => ?_, fun origin key value => ⟨sound.set_eq origin key value, fun full => ?_, fun room k => ?_⟩,
    fun origin key k => ?_, fun origin k => ⟨?_, rfl⟩, fun op origin other on apart => op.area_perform on apart⟩
  · have area := sound origin
    exact ⟨area.distinct, fun key value => Fields.get?_eq_some_iff area.distinct, area.used_eq, area.within⟩
  · have same : (s.set origin key value).2.Same s :=
      ⟨quota_set, (sound.counted.set_full fun fits => Int.not_le.mpr full (sound.fits_iff.mp fits)).2⟩
    exact same.answers
  · have there := (sound.counted.set_fits (sound.fits_iff.mpr room)).2 origin
    rw [if_pos rfl] at there
    change Fields.get? k ((s.set origin key value).2.area origin).entries = _
    rw [there]
    exact Fields.get?_set _ _ _ _
  · rw [get?, area_remove, if_pos rfl]
    change Fields.get? k (Fields.erase key (s.area origin).entries) = _
    split
    · next same =>
      rw [same]
      exact Fields.get?_erase_self _ _
    · next apart => exact Fields.get?_erase_of_ne _ apart
  · rw [get?, area_clear, if_pos rfl]
    rfl

/-- A value that replaces a longer one, where a further entry is too much. -/
theorem quota_accounting_full :
    let s := afterAll ⟨6, []⟩ [.set "a" "k" "long", .set "a" "k" "é", .set "a" "l" "wide"]
    s.used "a" = 3 ∧ (s.set "a" "l" "wide").1 = .error (.quotaExceeded "a" 8 6) := by
  obtain ⟨areas, sets, -⟩ :=
    quota_accounting 6 [.set "a" "k" "long", .set "a" "k" "é", .set "a" "l" "wide"]
  exact ⟨(areas "a").2.2.1.trans (by decide), (sets "a" "l" "wide").1.trans rfl⟩

end Storage

end Userscript
