import Userscript.Storage

/-!
# Userscript.Proofs.Storage.Areas

What setting a value does to the areas of a storage.

* `area_set`: one entry of one area, and nothing if there is no room;
* `Counted`: the count of bytes that an area carries along is that of its entries, whatever was set.
-/

namespace Userscript

theorem Fields.get?_set {α : Type} (name other : String) (value : α) (fields : Fields α) :
    Fields.get? other (Fields.set name value fields) =
      if other = name then some value else Fields.get? other fields := by
  split
  · subst other
    exact Fields.get?_set_self name value fields
  · exact Fields.get?_set_of_ne value fields ‹_›

namespace Area

/-- The count of bytes is that of the entries. -/
def Counted (a : Area) : Prop := a.used = a.size

theorem size_cons (k v : String) (rest : Fields String) (n m : Nat) :
    size ⟨(k, v) :: rest, n⟩ = entrySize k v + size ⟨rest, m⟩ := rfl

/-- Setting an entry replaces the one of its key. -/
theorem size_set (key value : String) (entries : Fields String) (n m : Nat) :
    size ⟨Fields.set key value entries, n⟩ + held key ⟨entries, m⟩ =
      size ⟨entries, m⟩ + entrySize key value := by
  induction entries with
  | nil => simp [Fields.set, size, held, Fields.get?]
  | cons entry rest ih =>
    obtain ⟨k, v⟩ := entry
    by_cases hk : k = key
    · subst hk
      simp only [Fields.set, if_true, held, Fields.get?]
      rw [size_cons _ _ _ _ m, size_cons _ _ _ _ m]
      omega
    · simp only [held] at ih
      simp only [Fields.set, if_neg hk, held, Fields.get?]
      rw [size_cons _ _ _ _ n, size_cons _ _ _ _ m]
      omega

theorem held_le_size (key : String) (entries : Fields String) (n : Nat) :
    held key ⟨entries, n⟩ ≤ size ⟨entries, n⟩ := by
  induction entries with
  | nil => exact Nat.le_refl 0
  | cons entry rest ih =>
    obtain ⟨k, v⟩ := entry
    rw [size_cons _ _ _ _ n]
    by_cases hk : k = key
    · subst hk
      simp only [held, Fields.get?, if_true]
      exact Nat.le_add_right _ _
    · simp only [held, Fields.get?, if_neg hk] at ih ⊢
      omega

theorem Counted.needed {a : Area} (h : a.Counted) (key value : String) :
    a.needed key value = (a.set key value).size := by
  have hset := size_set key value a.entries (a.needed key value) a.used
  have hheld := held_le_size key a.entries a.used
  have hused : a.used = a.size := h
  change a.used - a.held key + entrySize key value = size ⟨Fields.set key value a.entries, a.needed key value⟩
  change _ + a.held key = a.size + _ at hset
  change a.held key ≤ a.size at hheld
  omega

theorem Counted.set {a : Area} (h : a.Counted) (key value : String) : (a.set key value).Counted :=
  h.needed key value

end Area

namespace Storage

/-- In every area the count of bytes is that of the entries. -/
def Counted (s : Storage) : Prop := ∀ origin, (s.area origin).Counted

variable {s : Storage} {origin key value : String}

/-- Whether there is room for a value, by the entries that the area would hold. -/
def Fits (s : Storage) (origin key value : String) : Prop :=
  (((s.area origin).set key value).size : Int) ≤ s.quota

instance : Decidable (s.Fits origin key value) := inferInstanceAs (Decidable (_ ≤ _))

theorem area_areas_set (o : String) (a : Area) (s : Storage) (quota : Int) :
    (Storage.mk quota (Fields.set origin a s.areas)).area o = if o = origin then a else s.area o := by
  unfold area
  rw [Fields.get?_set]
  split <;> rfl

@[simp] theorem quota_set : (s.set origin key value).2.quota = s.quota := by
  unfold Storage.set
  dsimp only
  split <;> rfl

theorem Counted.set_fits (h : s.Counted) (hfits : s.Fits origin key value) :
    (s.set origin key value).1 = .ok () ∧
    ∀ o, (s.set origin key value).2.area o =
      if o = origin then (s.area origin).set key value else s.area o := by
  have hneeded := (h origin).needed key value
  have hroom : ¬ (((s.area origin).needed key value : Int) > s.quota) := by
    rw [hneeded]
    exact Int.not_lt.2 hfits
  unfold Storage.set
  dsimp only
  rw [if_neg hroom]
  exact ⟨rfl, fun o => area_areas_set o _ s _⟩

theorem Counted.set_full (h : s.Counted) (hfull : ¬ s.Fits origin key value) :
    (∃ needed, (s.set origin key value).1 = .error (.quotaExceeded origin needed s.quota)) ∧
    ∀ o, (s.set origin key value).2.area o = s.area o := by
  have hneeded := (h origin).needed key value
  have hroom : ((s.area origin).needed key value : Int) > s.quota := by
    rw [hneeded]
    exact Int.not_le.1 hfull
  unfold Storage.set
  dsimp only
  rw [if_pos hroom]
  refine ⟨⟨_, rfl⟩, fun o => ?_⟩
  rw [area_areas_set]
  split
  · subst o
    rfl
  · rfl

theorem Counted.set (h : s.Counted) : (s.set origin key value).2.Counted := by
  intro o
  by_cases hfits : s.Fits origin key value
  · rw [(h.set_fits hfits).2 o]
    split
    · exact (h origin).set key value
    · exact h o
  · rw [(h.set_full hfits).2 o]
    exact h o

/-- Storages that hold the same, though one may know of an origin where nothing is set. -/
structure Same (s t : Storage) : Prop where
  quota : s.quota = t.quota
  area : ∀ origin, s.area origin = t.area origin

theorem Same.set {t : Storage} (h : s.Same t) :
    (s.set origin key value).1 = (t.set origin key value).1 ∧
      (s.set origin key value).2.Same (t.set origin key value).2 := by
  unfold Storage.set
  dsimp only
  rw [h.area origin, h.quota]
  split
  all_goals
    refine ⟨rfl, rfl, fun o => ?_⟩
    dsimp only
    rw [area_areas_set, area_areas_set, h.area o]

theorem counted_empty (quota : Int) : Counted ⟨quota, []⟩ := fun _ => rfl

end Storage

end Userscript
