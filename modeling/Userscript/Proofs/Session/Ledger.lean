import Mathlib.Data.List.Induction
import Userscript.Proofs.Catalog.Memory
import Userscript.Session.Engine

/-!
# Userscript.Proofs.Session.Ledger

What the ledger of a store in memory says after reports that came one after another.

* `Store.recorded` is a store after the report of an outcome, `deliver_local` the job that takes it there;
* `recordOf_setRecord`: a report changes the record of its script, and no other;
* `ledger_after`: each report was recorded once, the record of a script tells of its last outcome, and only scripts
  that were reported have one.
-/

namespace Userscript

/-- The error of an outcome, as the engine is told it and as the ledger keeps it. -/
def Outcome.told (o : Outcome) : Json :=
  match o.error with
  | some text => .str text
  | none => .null

namespace Catalog.Store

/-- A store after the report of an outcome; that of a script without an id is not sent. -/
def recorded (s : Store) (o : Outcome) : Store :=
  match o.id with
  | some id => (runOn (recordRun id o.ok o.told) s).2
  | none => s

theorem recorded_held (m : Memory) (n : Nat) (time : Nat → Json) {o : Outcome} {id : Int} (of : o.id = some id) :
    (held m n time).recorded o = held { m with
      runs := setRecord id (((recordOf id m.runs).getD {}).afterRun (time (n + 1)) o.ok o.told) m.runs }
      (n + 1) time := by
  rw [recorded, of]
  rfl

theorem recordOf_setRecord (id other : Int) (r : RunRecord) (runs : List (Int × RunRecord)) :
    recordOf other (setRecord id r runs) = if other = id then some r else recordOf other runs := by
  induction runs with
  | nil =>
    by_cases same : other = id
    · subst same
      simp [setRecord, recordOf]
    · simp [setRecord, recordOf, same, Ne.symm same]
  | cons entry rest ih =>
    obtain ⟨k, old⟩ := entry
    by_cases here : k = id
    · subst here
      by_cases same : other = k
      · subst same
        simp [setRecord, recordOf]
      · simp [setRecord, recordOf, same, Ne.symm same]
    · rw [setRecord, if_neg here]
      by_cases there : k = other
      · subst there
        simp [recordOf, here]
      · have skip (l : List (Int × RunRecord)) : recordOf other ((k, old) :: l) = recordOf other l := by
          simp [recordOf, there]
        rw [skip, skip, ih]

/-- The ledger keeps the error of a run as it was told, unless that is without words. -/
theorem lastError_afterRun (r : RunRecord) (now : Json) {o : Outcome} (words : o.error ≠ some "") :
    (r.afterRun now o.ok o.told).lastError = o.told := by
  obtain ⟨id, name, error⟩ := o
  cases error with
  | none => rfl
  | some text =>
    have said : (Json.str text).truthy = true := decide_eq_true fun none => words (congrArg some none)
    have whole : RunRecord.errorText (.str text) = text := by
      rw [RunRecord.errorText, Json.orElse, if_pos said]
      rfl
    exact congrArg Json.str whole

/-- What the ledger says of a script after outcomes. -/
structure Tells (outcomes : List Outcome) (runs : List (Int × RunRecord)) : Prop where
  /-- The last outcome of a script is in its record. -/
  last : ∀ before o after, outcomes = before ++ o :: after → (∀ later ∈ after, later.id ≠ o.id) →
    ∃ id r, o.id = some id ∧ recordOf id runs = some r ∧ r.lastError = o.told
  /-- Only scripts that ran have a record. -/
  only : ∀ id, (recordOf id runs).isSome → ∃ o ∈ outcomes, o.id = some id

theorem Tells.recorded {outcomes : List Outcome} {runs : List (Int × RunRecord)} (h : Tells outcomes runs)
    {o : Outcome} {id : Int} (of : o.id = some id) {r : RunRecord} (error : r.lastError = o.told) :
    Tells (outcomes ++ [o]) (setRecord id r runs) where
  last before x after cut none := by
    -- The outcome in question is the new one, or one before it, of which the new one is no successor.
    rcases List.eq_nil_or_concat after with rfl | ⟨front, y, rfl⟩
    · obtain ⟨-, same⟩ := List.append_inj' cut rfl
      obtain rfl := List.singleton_inj.mp same
      exact ⟨id, r, of, by rw [recordOf_setRecord, if_pos rfl], error⟩
    · have cut' : outcomes ++ [o] = (before ++ x :: front) ++ [y] := by
        rw [cut, List.concat_eq_append, List.append_assoc, List.cons_append]
      obtain ⟨early, same⟩ := List.append_inj' cut' rfl
      obtain rfl := List.singleton_inj.mp same
      rw [List.concat_eq_append] at none
      obtain ⟨k, q, ofX, found, told⟩ := h.last before x front early fun later mem =>
        none later (List.mem_append_left _ mem)
      have apart : k ≠ id := by
        rintro rfl
        exact none o (List.mem_append_right _ (List.mem_singleton_self o)) (of.trans ofX.symm)
      exact ⟨k, q, ofX, by rw [recordOf_setRecord, if_neg apart, found], told⟩
  only k some := by
    rw [recordOf_setRecord] at some
    split at some
    · next same =>
      subst same
      exact ⟨o, List.mem_append_right _ (List.mem_singleton_self o), of⟩
    · obtain ⟨x, mem, ofX⟩ := h.only k some
      exact ⟨x, List.mem_append_left _ mem, ofX⟩

/-- An empty ledger after reports one after another: each was recorded once, and it tells the last of each script. -/
theorem ledger_after {outcomes : List Outcome} (scripts : List Script) (settings : Settings) (n : Nat)
    (time : Nat → Json) (known : ∀ o ∈ outcomes, o.id.isSome ∧ o.error ≠ some "") :
    ∃ runs, outcomes.foldl recorded (held { scripts, settings } n time) =
      held { scripts, settings, runs } (n + outcomes.length) time ∧ Tells outcomes runs := by
  induction outcomes using List.reverseRecOn with
  | nil => exact ⟨[], rfl, fun before o after cut => absurd cut.symm (by simp), fun id some => by cases some⟩
  | append_singleton outcomes o ih =>
    obtain ⟨runs, after, tells⟩ := ih fun x mem => known x (List.mem_append_left _ mem)
    obtain ⟨named, words⟩ := known o (List.mem_append_right _ (List.mem_singleton_self o))
    obtain ⟨id, of⟩ := Option.isSome_iff_exists.mp named
    rw [List.foldl_append, after, List.foldl_cons, List.foldl_nil, recorded_held _ _ _ of, List.length_append]
    exact ⟨_, rfl, tells.recorded of (lastError_afterRun _ _ words)⟩

end Catalog.Store
end Userscript
