import Userscript.Json.Value
import Mathlib.Data.List.Nodup

/-!
# Userscript.Proofs.Json.Fields

Fields by name: what is set and taken out, and that each name stands once.

* `get?_erase_self`, `get?_erase_of_ne` and `get?_eq_some_iff` say what a look-up finds;
* `nodup_set` and `nodup_erase` keep names apart, and so does setting pairs one after another (`nodup_ofPairs`), which
  changes nothing if they were apart before (`ofPairs_of_nodup`).
-/

namespace Userscript

namespace Fields

variable {α : Type} {name other : String} {value : α} {fields : Fields α}

theorem get?_erase_self (name : String) (fields : Fields α) : get? name (erase name fields) = none := by
  induction fields with
  | nil => rfl
  | cons p rest ih =>
    obtain ⟨k, v⟩ := p
    rw [erase] at ih ⊢
    by_cases h : k = name
    · rw [List.filter_cons_of_neg (by simp [h])]
      exact ih
    · rw [List.filter_cons_of_pos (by simp [h]), get?, if_neg h]
      exact ih

theorem get?_erase_of_ne (fields : Fields α) (h : other ≠ name) :
    get? other (erase name fields) = get? other fields := by
  induction fields with
  | nil => rfl
  | cons p rest ih =>
    obtain ⟨k, v⟩ := p
    rw [erase] at ih ⊢
    by_cases hk : k = name
    · rw [List.filter_cons_of_neg (by simp [hk]), ih, get?, if_neg (fun same => h (same.symm.trans hk))]
    · rw [List.filter_cons_of_pos (by simp [hk]), get?, get?, ih]

theorem get?_eq_some_iff (h : (fields.map (·.1)).Nodup) : get? name fields = some value ↔ (name, value) ∈ fields := by
  induction fields with
  | nil => simp [get?]
  | cons p rest ih =>
    obtain ⟨k, v⟩ := p
    rw [List.map_cons, List.nodup_cons] at h
    rw [get?, List.mem_cons, Prod.mk.injEq]
    by_cases hk : k = name
    · subst hk
      have only : (k, value) ∉ rest := fun mem => h.1 (List.mem_map.mpr ⟨_, mem, rfl⟩)
      simp [only, eq_comm]
    · rw [if_neg hk, ih h.2]
      simp [Ne.symm hk]

theorem mem_names_set : other ∈ (set name value fields).map (·.1) ↔ other = name ∨ other ∈ fields.map (·.1) := by
  induction fields with
  | nil => simp [set]
  | cons p rest ih =>
    obtain ⟨k, v⟩ := p
    by_cases hk : k = name
    · subst hk
      simp [set]
    · rw [set, if_neg hk, List.map_cons, List.mem_cons, ih, List.map_cons, List.mem_cons]
      exact or_left_comm

theorem nodup_set (h : (fields.map (·.1)).Nodup) : ((set name value fields).map (·.1)).Nodup := by
  induction fields with
  | nil => exact List.pairwise_singleton _ name
  | cons p rest ih =>
    obtain ⟨k, v⟩ := p
    rw [List.map_cons, List.nodup_cons] at h
    by_cases hk : k = name
    · rw [set, if_pos hk]
      exact List.nodup_cons.mpr h
    · rw [set, if_neg hk, List.map_cons, List.nodup_cons, mem_names_set]
      exact ⟨not_or.mpr ⟨hk, h.1⟩, ih h.2⟩

theorem nodup_erase (h : (fields.map (·.1)).Nodup) : ((erase name fields).map (·.1)).Nodup :=
  h.sublist (List.filter_sublist.map _)

theorem set_of_not_mem (h : name ∉ fields.map (·.1)) :
    set name value fields = fields ++ [(name, value)] := by
  induction fields with
  | nil => rfl
  | cons p rest ih =>
    obtain ⟨k, v⟩ := p
    rw [List.map_cons, List.mem_cons, not_or] at h
    rw [set, if_neg (Ne.symm h.1), ih h.2]
    rfl

theorem ofPairs_of_nodup (h : (fields.map (·.1)).Nodup) : ofPairs fields = fields := by
  have hfold (before : Fields α) (later : List (String × α)) (hd : ((before ++ later).map (·.1)).Nodup) :
      later.foldl (fun fields p => set p.1 p.2 fields) before = before ++ later := by
    induction later generalizing before with
    | nil => rw [List.foldl_nil, List.append_nil]
    | cons p rest ih =>
      have hnew : p.1 ∉ before.map (·.1) := by
        rw [List.map_append, List.nodup_append] at hd
        intro hmem
        exact hd.2.2 _ hmem p.1 (by simp) rfl
      rw [List.foldl_cons, set_of_not_mem hnew, ih, List.append_assoc]
      · rfl
      · rw [List.append_assoc]
        exact hd
  exact hfold [] fields h

theorem nodup_ofPairs (pairs : List (String × α)) : ((ofPairs pairs).map (·.1)).Nodup := by
  have each (before : Fields α) (later : List (String × α)) (h : (before.map (·.1)).Nodup) :
      ((later.foldl (fun fields p => set p.1 p.2 fields) before).map (·.1)).Nodup := by
    induction later generalizing before with
    | nil => exact h
    | cons p rest ih => exact ih _ (nodup_set h)
  exact each [] pairs .nil

end Fields

end Userscript
