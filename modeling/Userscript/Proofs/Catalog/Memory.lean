import Userscript.Proofs.Catalog.History
import Userscript.Proofs.Catalog.Normal

/-!
# Userscript.Proofs.Catalog.Memory

A store in memory, call after call.

As for a store on a database, each call has one equation (`perform_save_held` and so on). What is given ids keeps
all but its id (`exists_of_mem_assignIds`), and a ledger has one record for each script (`nodup_setRecord`).
-/

namespace Userscript.Catalog

/-! ## Ids -/

/-- The scripts of an assignment differ from the given ones in their ids only. -/
theorem exists_of_mem_assignIds {scripts saved : List Script} (h : assignIds scripts = .ok saved) :
    ∀ t ∈ saved, ∃ s ∈ scripts, ∃ n, t = { s with id := some n } := by
  obtain ⟨ids, -, rfl⟩ := map_eq_ok h
  intro t ht
  obtain ⟨⟨s, n⟩, hmem, rfl⟩ := List.mem_map.1 ht
  exact ⟨s, (List.of_mem_zip hmem).1, n, rfl⟩

theorem assign_eq_ok {given : List (Option Int)} {ids : List Int} (h : assign given = .ok ids) :
    ids = fill (largest given) given := by
  rw [assign] at h
  split at h
  · cases h
  · exact (Except.ok.inj h).symm

/-- Scripts that have ids keep them, and one that is appended gets the next unless it has one. -/
theorem zip_fill_append {l : List Script} (hids : ∀ t ∈ l, ∃ n, t.id = some n) (s : Script) (last : Int) :
    (((l ++ [s]).zip (fill last ((l ++ [s]).map (·.id)))).map fun (t, n) => { t with id := some n }) =
      l ++ [{ s with id := some (s.id.getD (last + 1)) }] := by
  induction l with
  | nil => cases hs : s.id <;> simp [fill, hs]
  | cons t rest ih =>
    rw [List.forall_mem_cons] at hids
    obtain ⟨⟨n, hn⟩, hrest⟩ := hids
    have ht : ({ t with id := some n } : Script) = t := by rw [← hn]
    simp only [List.cons_append, List.map_cons, hn, fill, List.zip_cons_cons, ht, ih hrest]

theorem assignIds_append {l saved : List Script} {s : Script} (h : assignIds (l ++ [s]) = .ok saved)
    (hids : ∀ t ∈ l, ∃ n, t.id = some n) : ∃ n, saved = l ++ [{ s with id := some n }] := by
  obtain ⟨ids, hassign, rfl⟩ := map_eq_ok h
  obtain rfl := assign_eq_ok hassign
  exact ⟨_, zip_fill_append hids s _⟩

namespace Store

/-! ## Records -/

section Records

variable {id : Int} {r : RunRecord} {runs : List (Int × RunRecord)}

/-- The record of a script in a ledger. -/
def recordOf (id : Int) (runs : List (Int × RunRecord)) : Option RunRecord := (runs.find? (·.1 = id)).map (·.2)

theorem isOwn_recordOf (h : ∀ e ∈ runs, e.2.IsOwn) : ((recordOf id runs).getD {}).IsOwn := by
  rw [recordOf]
  cases hfind : runs.find? (·.1 = id) with
  | none => exact RunRecord.isOwn_empty
  | some e => exact h e (List.mem_of_find?_eq_some hfind)

theorem mem_setRecord {e : Int × RunRecord}
    (h : e ∈ setRecord id r runs) : e = (id, r) ∨ e ∈ runs := by
  induction runs with
  | nil => exact .inl (List.mem_singleton.1 h)
  | cons f rest ih =>
    obtain ⟨k, old⟩ := f
    rw [setRecord] at h
    split at h
    · rename_i hk
      rcases List.mem_cons.1 h with rfl | h
      · exact .inl (by rw [hk])
      · exact .inr (List.mem_cons_of_mem _ h)
    · rcases List.mem_cons.1 h with rfl | h
      · exact .inr List.mem_cons_self
      · exact (ih h).imp_right (List.mem_cons_of_mem _)

theorem nodup_setRecord (h : (runs.map (·.1)).Nodup) : ((setRecord id r runs).map (·.1)).Nodup := by
  induction runs with
  | nil => exact List.pairwise_singleton _ id
  | cons f rest ih =>
    obtain ⟨k, old⟩ := f
    rw [List.map_cons, List.nodup_cons] at h
    rw [setRecord]
    split
    · exact List.nodup_cons.2 h
    · rename_i hk
      rw [List.map_cons, List.nodup_cons]
      refine ⟨fun hmem => ?_, ih h.2⟩
      obtain ⟨e, he, hfst⟩ := List.mem_map.1 hmem
      rcases mem_setRecord he with rfl | he
      · exact hk hfst.symm
      · exact h.1 (hfst ▸ List.mem_map_of_mem he)

end Records

/-! ## Calls -/

def held (m : Memory) (clock : Nat) (time : Nat → Json) : Store := { backend := .memory m, clock, time }

example : inMemory [] {} = .ok (held {} 0 counting) := rfl

section Held

variable (m : Memory) (n : Nat) (time : Nat → Json)

theorem runOn_saveScripts_held (scripts : List Script) :
    runOn (saveScripts scripts) (held m n time) =
      match assignIds scripts with
      | .error f => (.error f, held m n time)
      | .ok saved => (.ok saved, held { m with scripts := saved } n time) := by
  rw [saveScripts]
  simp only [runOn_bind, runOn_get, held, runOn_lift]
  cases assignIds scripts with
  | error f => rfl
  | ok saved => rfl

theorem perform_save_held (scripts : List Script) :
    perform (.save scripts) (held m n time) =
      match assignIds scripts with
      | .error f => (.error f, held m n time)
      | .ok saved => (.ok (.scripts saved), held { m with scripts := saved } n time) := by
  rw [perform, answer, runOn_map, runOn_saveScripts_held]
  cases assignIds scripts with
  | error f => rfl
  | ok saved => rfl

theorem perform_add_held (s : Script) :
    perform (.add s) (held m n time) =
      match assignIds (m.scripts ++ [s]) with
      | .error f => (.error f, held m n time)
      | .ok saved => (.ok (.script (saved.getLastD s)), held { m with scripts := saved } n time) := by
  have hcatalog : runOn Store.catalog (held m n time) = (.ok m.scripts, held m n time) := rfl
  rw [perform, answer, runOn_map, addScript, runOn_bind_ok hcatalog, runOn_bind, runOn_saveScripts_held]
  cases assignIds (m.scripts ++ [s]) with
  | error f => rfl
  | ok saved => rfl

theorem perform_catalog_held : perform .catalog (held m n time) = (.ok (.scripts m.scripts), held m n time) := rfl

theorem perform_settings_held : perform .settings (held m n time) = (.ok (.settings m.settings), held m n time) := rfl

theorem perform_runs_held : perform .runs (held m n time) = (.ok (.runs m.runs), held m n time) := rfl

theorem perform_saveSettings_held (s : Settings) :
    perform (.saveSettings s) (held m n time) = (.ok .done, held { m with settings := s.normal } n time) := by
  rw [perform, answer, runOn_map, Store.saveSettings]
  simp only [runOn_bind, runOn_get, held, runOn_lift, Settings.ofJson_toJson]
  rfl

theorem perform_record_held (id : Int) (ok : Bool) (error : Json) :
    perform (.record id ok error) (held m n time) =
      (.ok .done, held { m with
        runs := setRecord id (((recordOf id m.runs).getD {}).afterRun (time (n + 1)) ok error) m.runs }
        (n + 1) time) := rfl

end Held

end Store

end Userscript.Catalog
