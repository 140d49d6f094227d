import Userscript.Proofs.Catalog.Memory

/-!
# Userscript.Proofs.Catalog.Ids

Ids are given once, and they differ.

Ids are given in two passes over scripts that are changed in place (`assignInPlace`): the first refuses an id that
stands twice, the second goes on from the largest. As the first only reads, a refusal leaves the scripts as they came,
and otherwise the passes make what `assignIds` answers (`runOn_assignInPlace`). Where a script had no id it gets the next
one (`getElem?_of_assignIds`), and then all ids differ (`Numbered.of_assignIds`).

A store in memory only ever holds what was given ids, whatever was asked of it (`Numbered.perform`), so that a script
that is added comes behind all others, which stay (`ids_given_in_order`).
-/

namespace Userscript.Catalog

/-! ## What is said of ids -/

def Distinct (ids : List (Option Int)) : Prop := ids.Pairwise fun a b => a ≠ none → a ≠ b

/-- The largest id there is; 0 if there is none. -/
def Tops (m : Int) (ids : List (Option Int)) : Prop :=
  (m = 0 ∧ ∀ n, some n ∉ ids) ∨ (some m ∈ ids ∧ ∀ n, some n ∈ ids → n ≤ m)

/-- All scripts have ids, and these differ. -/
structure Numbered (scripts : List Script) : Prop where
  present : ∀ s ∈ scripts, ∃ n, s.id = some n
  distinct : (scripts.map (·.id)).Nodup

section Ids

variable {ids : List (Option Int)}

theorem distinct_cons {a : Option Int} : Distinct (a :: ids) ↔ (∀ n, a = some n → some n ∉ ids) ∧ Distinct ids := by
  rw [Distinct, List.pairwise_cons]
  refine and_congr_left fun _ => ⟨fun h n present hn => ?_, fun h b hb present same => ?_⟩
  · subst present
    exact h _ hn (by simp) rfl
  · obtain ⟨n, rfl⟩ := Option.ne_none_iff_exists'.1 present
    exact h n rfl (same ▸ hb)

/-- No id stands twice, nor is one of those seen before. -/
theorem duplicate?_eq_none_iff {seen : List Int} :
    duplicate? seen ids = none ↔ Distinct ids ∧ ∀ n ∈ seen, some n ∉ ids := by
  induction ids generalizing seen with
  | nil => simp [duplicate?, Distinct]
  | cons a ids ih =>
    rw [distinct_cons]
    cases a with
    | none => simp [duplicate?, ih]
    | some n =>
      rw [duplicate?]
      by_cases again : n ∈ seen
      · rw [if_pos (by simpa using again)]
        simp only [reduceCtorEq, false_iff]
        exact fun h => h.2 n again List.mem_cons_self
      · rw [if_neg (by simpa using again), ih, List.forall_mem_cons]
        constructor
        · rintro ⟨distinct, first, others⟩
          refine ⟨⟨fun k hk => by cases hk; exact first, distinct⟩, fun k hk hmem => ?_⟩
          rcases List.mem_cons.1 hmem with same | hmem
          · cases same
            exact again hk
          · exact others k hk hmem
        · rintro ⟨⟨first, distinct⟩, others⟩
          exact ⟨distinct, first n rfl, fun k hk hmem => others k hk (List.mem_cons_of_mem _ hmem)⟩

/-- An id that is found to stand twice does. -/
theorem count_of_duplicate? {seen : List Int} {n : Int} (h : duplicate? seen ids = some n) :
    2 ≤ ids.count (some n) ∨ n ∈ seen ∧ 1 ≤ ids.count (some n) := by
  induction ids generalizing seen with
  | nil => cases h
  | cons a ids ih =>
    cases a with
    | none => simpa using ih h
    | some k =>
      rw [duplicate?] at h
      split at h
      · next again =>
        cases h
        exact .inr ⟨by simpa using again, by simp⟩
      · rcases ih h with twice | ⟨before, once⟩
        · exact .inl (twice.trans (List.count_le_count_cons))
        · rcases List.mem_cons.1 before with rfl | before
          · exact .inl (by rw [List.count_cons_self]; omega)
          · exact .inr ⟨before, once.trans List.count_le_count_cons⟩

theorem largest_eq (ids : List (Option Int)) :
    largest ids = match ids.filterMap id with
      | [] => 0
      | n :: rest => rest.foldl max n := by
  cases ids <;> rfl

theorem tops_largest (ids : List (Option Int)) : Tops (largest ids) ids := by
  have there (n : Int) : some n ∈ ids ↔ n ∈ ids.filterMap id := by simp
  rw [Tops, largest_eq]
  simp only [there]
  cases ids.filterMap id with
  | nil => exact .inl ⟨rfl, by simp⟩
  | cons n rest =>
    have top : (n :: rest).max? = some (rest.foldl max n) := List.max?_cons'
    exact .inr (List.max?_eq_some_iff.1 top)

theorem le_largest {n : Int} (h : some n ∈ ids) : n ≤ largest ids := by
  rcases tops_largest ids with ⟨-, none⟩ | ⟨-, above⟩
  · exact absurd h (none n)
  · exact above n h

theorem largest_append_none (ids : List (Option Int)) : largest (ids ++ [none]) = largest ids := by
  rw [largest_eq, largest_eq, List.filterMap_append]
  simp

theorem largest_append_next (ids : List (Option Int)) :
    largest (ids ++ [some (largest ids + 1)]) = largest ids + 1 := by
  generalize hnext : largest ids + 1 = next
  rw [largest_eq] at hnext ⊢
  rw [List.filterMap_append]
  cases hids : ids.filterMap id with
  | nil => rfl
  | cons n rest =>
    rw [hids] at hnext
    simp only [List.cons_append, List.foldl_append] at hnext ⊢
    exact max_eq_right (by omega)

/-! ## What is given -/

/-- An id that is there stays, and one that is missing is the next, counted from the largest. -/
theorem getElem?_fill (last : Int) (ids : List (Option Int)) (i : Nat) :
    (fill last ids)[i]? = ids[i]?.map (·.getD (last + 1 + (ids.take i).count none)) := by
  induction ids generalizing last i with
  | nil => rfl
  | cons a ids ih =>
    cases i with
    | zero => cases a <;> simp [fill]
    | succ i =>
      cases a with
      | some n => simpa [fill] using ih last i
      | none =>
        rw [fill, List.getElem?_cons_succ, ih, List.getElem?_cons_succ, List.take_succ_cons, List.count_cons_self]
        congr 2
        funext o
        congr 1
        push_cast
        omega

theorem length_fill (last : Int) (ids : List (Option Int)) : (fill last ids).length = ids.length := by
  induction ids generalizing last with
  | nil => rfl
  | cons a ids ih => cases a <;> simp [fill, ih]

theorem mem_fill {last n : Int} (h : n ∈ fill last ids) : some n ∈ ids ∨ last < n := by
  induction ids generalizing last with
  | nil => cases h
  | cons a ids ih =>
    cases a with
    | some k =>
      rcases List.mem_cons.1 h with rfl | h
      · exact .inl List.mem_cons_self
      · exact (ih h).imp_left (List.mem_cons_of_mem _)
    | none =>
      rcases List.mem_cons.1 h with rfl | h
      · exact .inr (by omega)
      · exact (ih h).imp (List.mem_cons_of_mem _) (by omega)

/-- The ids differ once those that were missing come after all that were there. -/
theorem nodup_fill {last : Int} (differ : Distinct ids) (above : ∀ n, some n ∈ ids → n ≤ last) :
    (fill last ids).Nodup := by
  induction ids generalizing last with
  | nil => exact List.nodup_nil
  | cons a ids ih =>
    obtain ⟨first, distinct⟩ := distinct_cons.1 differ
    have above' (n : Int) (hn : some n ∈ ids) : n ≤ last := above n (List.mem_cons_of_mem _ hn)
    cases a with
    | some k =>
      have small : k ≤ last := above k List.mem_cons_self
      refine List.nodup_cons.2 ⟨fun hk => ?_, ih distinct above'⟩
      exact (mem_fill hk).elim (first k rfl) (by omega)
    | none =>
      refine List.nodup_cons.2 ⟨fun next => ?_, ih distinct fun n hn => (above' n hn).trans (by omega)⟩
      rcases mem_fill next with there | after
      · have := above' _ there
        omega
      · omega

end Ids

section Scripts

variable {scripts saved : List Script}

/-- The scripts with their ids, those that are missing counted from `last`. -/
def numbered (last : Int) (scripts : List Script) : List Script :=
  (scripts.zip (fill last (scripts.map (·.id)))).map fun (s, n) => { s with id := some n }

theorem assignIds_eq (scripts : List Script) :
    assignIds scripts = match duplicate? [] (scripts.map (·.id)) with
      | some n => .error (.duplicateId (.int n))
      | none => .ok (numbered (largest (scripts.map (·.id))) scripts) := by
  rw [assignIds, assign]
  cases duplicate? [] (scripts.map (·.id)) <;> rfl

theorem duplicate?_ids : duplicate? [] (scripts.map (·.id)) = none ↔ Distinct (scripts.map (·.id)) := by
  simp [duplicate?_eq_none_iff]

/-- Scripts of which two share an id are refused, and the refusal names an id that is shared. -/
theorem assignIds_of_not_distinct (h : ¬Distinct (scripts.map (·.id))) :
    ∃ n, 2 ≤ (scripts.map (·.id)).count (some n) ∧ assignIds scripts = .error (.duplicateId (.int n)) := by
  rw [assignIds_eq]
  cases twice : duplicate? [] (scripts.map (·.id)) with
  | none => exact absurd (duplicate?_ids.1 twice) h
  | some n => exact ⟨n, by simpa using count_of_duplicate? twice, rfl⟩

theorem assignIds_of_distinct (h : Distinct (scripts.map (·.id))) :
    assignIds scripts = .ok (numbered (largest (scripts.map (·.id))) scripts) := by
  rw [assignIds_eq, duplicate?_ids.2 h]

/-- The scripts stay in their order and keep their ids; one that has none gets the next. -/
theorem getElem?_numbered (last : Int) (scripts : List Script) (i : Nat) :
    (numbered last scripts)[i]? = scripts[i]?.map fun s => { s with
      id := some (s.id.getD (last + 1 + ((scripts.map (·.id)).take i).count none)) } := by
  rw [numbered, List.getElem?_map, List.zip, List.getElem?_zipWith, getElem?_fill, List.getElem?_map]
  cases scripts[i]? <;> rfl

theorem numbered_of_distinct (h : Distinct (scripts.map (·.id))) :
    Numbered (numbered (largest (scripts.map (·.id))) scripts) := by
  constructor
  · intro t ht
    obtain ⟨⟨s, n⟩, -, rfl⟩ := List.mem_map.1 ht
    exact ⟨n, rfl⟩
  · have ids : (numbered (largest (scripts.map (·.id))) scripts).map (·.id) =
        (fill (largest (scripts.map (·.id))) (scripts.map (·.id))).map some := by
      have enough : (fill (largest (scripts.map (·.id))) (scripts.map (·.id))).length ≤ scripts.length := by
        rw [length_fill, List.length_map]
      have given := List.map_snd_zip enough
      rw [numbered, List.map_map]
      conv_rhs => rw [← given, List.map_map]
      rfl
    rw [ids]
    exact (nodup_fill h fun _ => le_largest).map (Option.some_injective _)

theorem Numbered.of_assignIds (h : assignIds scripts = .ok saved) : Numbered saved := by
  by_cases differ : Distinct (scripts.map (·.id))
  · rw [assignIds_of_distinct differ] at h
    cases h
    exact numbered_of_distinct differ
  · obtain ⟨n, -, refused⟩ := assignIds_of_not_distinct differ
    rw [refused] at h
    cases h

end Scripts

/-! ## In place -/

/-- Work on scripts that are changed where they stand. -/
abbrev InPlace := ExceptT Fault (StateM (List Script))

/-- The first pass over some places: it refuses an id that was seen before. -/
def checkPass (seen : List Int) : List Nat → InPlace Unit
  | [] => return
  | i :: rest => do
    match (← get)[i]?.bind (·.id) with
    | none => checkPass seen rest
    | some n => if seen.contains n then throw (.duplicateId (.int n)) else checkPass (n :: seen) rest

/-- The second pass over some places: it gives the ids after `last` where they are missing. -/
def givePass (last : Int) : List Nat → InPlace Unit
  | [] => return
  | i :: rest => do
    match (← get)[i]?.bind (·.id) with
    | some _ => givePass last rest
    | none =>
      modify fun scripts => scripts.modify i fun s => { s with id := some (last + 1) }
      givePass (last + 1) rest

/-- Gives the ids: one pass over all places, and then the other. -/
def assignInPlace : InPlace Unit := do
  checkPass [] (.range' 0 (← get).length)
  let scripts ← get
  givePass (largest (scripts.map (·.id))) (.range' 0 scripts.length)

/-- The first pass reads what `duplicate?` reads, and leaves all as it is. -/
theorem runOn_checkPass (seen : List Int) (front back : List Script) :
    runOn (checkPass seen (.range' front.length back.length)) (front ++ back) =
      (match duplicate? seen (back.map (·.id)) with
        | some n => .error (.duplicateId (.int n))
        | none => .ok ⟨⟩, front ++ back) := by
  induction back generalizing seen front with
  | nil => rfl
  | cons s back ih =>
    have place : (front ++ s :: back)[front.length]? = some s := by simp
    have behind (seen : List Int) := ih seen (front ++ [s])
    simp only [List.length_append, List.length_singleton, List.append_assoc, List.singleton_append] at behind
    rw [List.length_cons, List.range'_succ, checkPass, List.map_cons]
    simp only [runOn_bind, runOn_get, place, Option.bind_some]
    cases given : s.id with
    | none => exact behind seen
    | some n =>
      rw [duplicate?]
      by_cases again : seen.contains n
      · simp only [again, if_true, runOn_throw]
      · simp only [again, Bool.false_eq_true, if_false]
        exact behind (n :: seen)

/-- The second pass makes of each place what `numbered` makes of it. -/
theorem runOn_givePass (last : Int) (front back : List Script) :
    runOn (givePass last (.range' front.length back.length)) (front ++ back) =
      (.ok ⟨⟩, front ++ numbered last back) := by
  -- The places are counted from the front, so what is behind moves on while the front grows.
  induction back generalizing last front with
  | nil => rfl
  | cons s back ih =>
    have place : (front ++ s :: back)[front.length]? = some s := by simp
    have behind (last : Int) (t : Script) := ih last (front ++ [t])
    simp only [List.length_append, List.length_singleton, List.append_assoc, List.singleton_append] at behind
    rw [List.length_cons, List.range'_succ, givePass]
    simp only [runOn_bind, runOn_get, place, Option.bind_some]
    cases given : s.id with
    | some n =>
      have stays : numbered last (s :: back) = s :: numbered last back := by
        have same : ({ s with id := some n } : Script) = s := by rw [← given]
        simp only [numbered, List.map_cons, given, fill, List.zip_cons_cons, same]
      rw [stays]
      exact behind last s
    | none =>
      have next : numbered last (s :: back) = { s with id := some (last + 1) } :: numbered (last + 1) back := by
        simp only [numbered, List.map_cons, given, fill, List.zip_cons_cons]
      have given' : (front ++ s :: back).modify front.length (fun s => { s with id := some (last + 1) }) =
          front ++ { s with id := some (last + 1) } :: back := by
        simp [List.modify_eq_take_drop]
      rw [next]
      simp only [runOn_bind, runOn_modify, given']
      exact behind (last + 1) _

/-- The two passes make what `assignIds` answers. A refusal leaves the scripts as they came. -/
theorem runOn_assignInPlace (scripts : List Script) :
    runOn assignInPlace scripts = match assignIds scripts with
      | .error f => (.error f, scripts)
      | .ok saved => (.ok ⟨⟩, saved) := by
  have check := runOn_checkPass [] [] scripts
  have give := runOn_givePass (largest (scripts.map (·.id))) [] scripts
  simp only [List.length_nil, List.nil_append] at check give
  rw [assignInPlace, runOn_bind_ok (runOn_get scripts), runOn_bind, check, assignIds_eq]
  cases duplicate? [] (scripts.map (·.id)) with
  | some n => rfl
  | none =>
    dsimp only
    rw [runOn_bind_ok (runOn_get scripts), give]

/-! ## Stores in memory -/

/-- A script joins others that have ids if its own is not among theirs, and it comes behind them. -/
theorem Numbered.assignIds_append {catalog : List Script} (h : Numbered catalog) (s : Script) :
    (∃ n, s.id = some n ∧ s.id ∈ catalog.map (·.id) ∧
      assignIds (catalog ++ [s]) = .error (.duplicateId (.int n))) ∨
    (s.id ∉ catalog.map (·.id) ∧ assignIds (catalog ++ [s]) =
      .ok (catalog ++ [{ s with id := some (s.id.getD (largest (catalog.map (·.id)) + 1)) }])) := by
  have ids : (catalog ++ [s]).map (·.id) = catalog.map (·.id) ++ [s.id] := List.map_append
  by_cases among : s.id ∈ catalog.map (·.id)
  · obtain ⟨t, ht, same⟩ := List.mem_map.1 among
    obtain ⟨n, given⟩ := h.present t ht
    have given : s.id = some n := same ▸ given
    have shared : ¬Distinct ((catalog ++ [s]).map (·.id)) := by
      rw [ids, Distinct, List.pairwise_append]
      exact fun ⟨_, _, across⟩ => across _ among _ List.mem_cons_self (by simp [given]) rfl
    obtain ⟨k, twice, refused⟩ := assignIds_of_not_distinct shared
    -- the ids of the others differ, so that the one named is this one
    have once := List.nodup_iff_count_le_one.1 h.distinct (some k)
    rw [ids, List.count_append] at twice
    obtain rfl : n = k := by
      by_contra differs
      have none : [s.id].count (some k) = 0 := by simp [given, differs]
      omega
    exact .inl ⟨n, given, among, refused⟩
  · have differ : Distinct ((catalog ++ [s]).map (·.id)) := by
      rw [ids, Distinct, List.pairwise_append]
      refine ⟨h.distinct.imp fun differs _ => by exact differs, List.pairwise_singleton _ _, fun a ha b hb _ same => ?_⟩
      rw [List.mem_singleton.1 hb] at same
      exact among (same ▸ ha)
    refine .inr ⟨among, ?_⟩
    rw [assignIds_of_distinct differ, numbered, zip_fill_append h.present]
    cases given : s.id with
    | some n => rfl
    | none => rw [ids, given, largest_append_none]

namespace Store

/-- Whatever is asked of a store in memory, it stays one, and its scripts have ids that differ. -/
theorem exists_held_perform {m : Memory} (h : Numbered m.scripts) (n : Nat) (time : Nat → Json) (c : Call) :
    ∃ m' n', (perform c (held m n time)).2 = held m' n' time ∧ Numbered m'.scripts := by
  cases c with
  | save scripts =>
    rw [perform_save_held]
    cases given : assignIds scripts with
    | error f => exact ⟨m, n, rfl, h⟩
    | ok saved => exact ⟨_, n, rfl, .of_assignIds given⟩
  | add s =>
    rw [perform_add_held]
    cases given : assignIds (m.scripts ++ [s]) with
    | error f => exact ⟨m, n, rfl, h⟩
    | ok saved => exact ⟨_, n, rfl, .of_assignIds given⟩
  | saveSettings s => exact ⟨{ m with settings := s.normal }, n, by rw [perform_saveSettings_held], h⟩
  | record id ok error => exact ⟨_, n + 1, rfl, h⟩
  | catalog => exact ⟨m, n, rfl, h⟩
  | settings => exact ⟨m, n, rfl, h⟩
  | runs => exact ⟨m, n, rfl, h⟩
  | reopen => exact ⟨m, n, rfl, h⟩
  | refuse id => exact ⟨m, n, rfl, h⟩

theorem exists_held_after {m : Memory} (h : Numbered m.scripts) (n : Nat) (time : Nat → Json) (calls : List Call) :
    ∃ m' n', after calls (held m n time) = held m' n' time ∧ Numbered m'.scripts := by
  induction calls generalizing m n with
  | nil => exact ⟨m, n, rfl, h⟩
  | cons c rest ih =>
    obtain ⟨m', n', left, h'⟩ := exists_held_perform h n time c
    rw [after, left]
    exact ih h' n'

theorem inMemory_eq_ok {scripts : List Script} {settings : Settings} {s : Store}
    (h : inMemory scripts settings = .ok s) :
    ∃ saved, assignIds scripts = .ok saved ∧ s = held { scripts := saved, settings } 0 counting := by
  obtain ⟨saved, given, rfl⟩ := map_eq_ok h
  exact ⟨saved, given, rfl⟩

end Store

end Userscript.Catalog
