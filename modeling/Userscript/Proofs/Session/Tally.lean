import Userscript.Proofs.Session.Waiting

/-!
# Userscript.Proofs.Session.Tally

What a page counts, whatever bridge its batches come over.

Answers may be good or bad and take as long as they like, and a batch may break off. The outcomes of a page are those
of its rounds at every moment, in the order of the phases; the count of runs and the badge go by them, and by the
outcomes that the batch made which broke off.

* `Recorded`: the outcomes of a page are those of its rounds, and `Orderly.recorded_move`: any move keeps that;
* `Tally` is what holds of count and badge, and `tally_after`: it does after any run;
* `Orderly.outcomes_turn`: when the last phase is over, no job adds an outcome.
-/

namespace Userscript.Session

variable {σ : Type} {set : Setting σ} {badge : Page.Badge} {s t : Session σ} {e d n : Nat} {p : Phase}
  {lost : List Outcome}

/-! ## Outcomes of rounds -/

def Round.outcomes (r : Round) : List Outcome :=
  match r.stand with
  | .done os => os
  | _ => []

/-- The outcomes of a page are those of its rounds. -/
def Recorded (s : Session σ) : Prop := s.outcomes = s.rounds.flatMap Round.outcomes

theorem flatMap_modify {α β : Type} (g : α → List β) (f : α → α) {l : List α} {x : α} (at_n : l[n]? = some x) :
    (l.modify n f).flatMap g = (l.take n).flatMap g ++ (g (f x) ++ (l.drop (n + 1)).flatMap g) := by
  obtain ⟨inside, rfl⟩ := List.getElem?_eq_some_iff.mp at_n
  rw [List.modify_eq_take_cons_drop inside, List.flatMap_append, List.flatMap_cons]

/-- A round that changes and leaves the same outcomes changes nothing in all. -/
theorem Recorded.setRound (h : s.Recorded) {r : Round} (found : s.rounds[n]? = some r) {f : Round → Round}
    (same : (f r).outcomes = r.outcomes) : (s.setRound n f).Recorded := by
  have before := flatMap_modify Round.outcomes id found
  rw [List.modify_id] at before
  rw [Recorded, Session.setRound, flatMap_modify _ _ found, same]
  exact h.trans before

namespace Chain

/-- A round that is not over left nothing. -/
theorem outcomes_ahead (h : Chain e d s) {r : Round} (found : s.rounds[n]? = some r) (ahead : d ≤ n) :
    r.outcomes = [] := by
  rcases (h.placed n r found).standing.of_le h.well_le ahead with stand | stand | stand
  all_goals rw [Round.outcomes, stand]

/-- The round that is next ends, and leaves its outcomes behind all others. -/
theorem recorded_finish {j : Job} {b : Bool} (h : Chain e d (s.push j)) (about : j.about? = some (d, b))
    (recorded : s.Recorded) {os : List Outcome} (rounds : t.rounds = s.rounds) (outcomes : t.outcomes = s.outcomes ++ os)
    {stand : Stand} (leaves : ∀ r : Round, ({ r with stand } : Round).outcomes = os) :
    (t.finish d stand).Recorded := by
  obtain ⟨⟨r, found, -, -, scheduled⟩, -⟩ := h.of_next about
  have before := flatMap_modify Round.outcomes id found
  have behind : (s.rounds.drop (d + 1)).flatMap Round.outcomes = [] := by
    rw [List.flatMap_eq_nil_iff]
    intro q mem
    obtain ⟨k, at_k⟩ := List.mem_iff_getElem?.mp mem
    rw [List.getElem?_drop] at at_k
    exact h.outcomes_ahead (s := s.push j) at_k (by omega)
  rw [List.modify_id, id, h.outcomes_ahead (s := s.push j) found (Nat.le_refl d), behind, List.append_nil,
    List.append_nil] at before
  rw [← rounds] at found
  rw [Recorded, finish_eq found scheduled]
  dsimp only
  rw [flatMap_modify _ _ found, leaves, rounds, behind, List.append_nil, ← before, outcomes]
  exact congrArg (· ++ os) recorded

theorem recorded_runRound (set : Setting σ) (p : Phase) {laps : Nat} (h : Chain e d (s.push (.answer d laps)))
    (recorded : s.Recorded) : (s.runRound set d p).Recorded := by
  have runs := runsRound set d p s
  generalize s.runRound set d p = t at runs ⊢
  cases runs with
  | refused _ course =>
    exact h.recorded_finish rfl recorded (congrArg Course.rounds course)
      ((congrArg Course.outcomes course).trans (List.append_nil _).symm) fun _ => rfl
  | ran _ _ course =>
    exact h.recorded_finish rfl recorded (congrArg Course.rounds course) (congrArg Course.outcomes course) fun _ => rfl
  | broken _ _ course =>
    exact h.recorded_finish rfl recorded (congrArg Course.rounds course)
      ((congrArg Course.outcomes course).trans (List.append_nil _).symm) fun _ => rfl

/-- A job is done, whichever of those that wait. -/
theorem recorded_work (set : Setting σ) {j : Job} (h : Chain e d (s.push j)) (recorded : s.Recorded) :
    (s.work set j).Recorded := by
  cases j with
  | round n =>
    obtain ⟨r, found, phase, -, ⟨-, passes⟩ | ⟨rfl, stands, ends⟩ | ⟨-, stands, waits⟩⟩ := h.turn_cases set
    · rw [passes]
      exact recorded.setRound found rfl
    · rcases ends with ⟨rfl, asks⟩ | ⟨-, f, fails⟩
      -- A round ahead has made nothing, so it may be marked as asking before its batch runs.
      · have left : r.outcomes = [] := h.outcomes_ahead (s := s.push (.round e)) found (Nat.le_refl e)
        have asking : (s.asking e r.phase).Recorded :=
          Recorded.setRound (s := { s with requested := _ }) recorded found left.symm
        rw [asks, ask_eq]
        split
        · exact (h.asking phase 0).recorded_runRound set r.phase asking
        · exact asking
      · rw [fails]
        exact h.recorded_finish rfl recorded rfl (List.append_nil _).symm fun _ => rfl
    · rw [waits]
      refine recorded.setRound found ?_
      rw [Round.outcomes, Round.outcomes, stands]
  | answer n laps =>
    cases laps with
    | zero =>
      obtain ⟨rfl, -, r, found, -⟩ := h.of_answer rfl
      have at_n : s.round? n = some r := found
      simp only [Session.work, at_n]
      exact h.recorded_runRound set r.phase recorded
    | succ laps => exact recorded
  | report o =>
    obtain ⟨engine, log, delivered⟩ := exists_deliver set o s
    rw [Session.work, delivered]
    exact recorded
  | request a details =>
    have same : (s.perform set a details).course = s.course := course_perform details s
    rw [Session.work, Recorded, show (s.perform set a details).outcomes = _ from congrArg Course.outcomes same,
      show (s.perform set a details).rounds = _ from congrArg Course.rounds same]
    exact recorded
  | wake => exact recorded

end Chain

/-- Any move on a page in order. -/
theorem Orderly.recorded_move (set : Setting σ) (h : Orderly e d s) (recorded : s.Recorded) (m : Move σ) :
    (s.move set m).Recorded := by
  have due (p : Phase) (s : Session σ) (recorded : s.Recorded) : (s.due p).Recorded := by
    change s.outcomes = (s.rounds ++ [_]).flatMap Round.outcomes
    rw [List.flatMap_append, ← recorded]
    exact (List.append_nil _).symm
  cases m with
  | attach => exact attach_keeps due (fun _ _ _ _ h => h) recorded
  | parsed | loaded => exact through_keeps due (fun _ _ _ _ h => h) _ recorded
  | turn bridge i =>
    cases at_i : s.queue[i]? with
    | none =>
      rw [Session.move, turn_of_none at_i]
      exact recorded
    | some j =>
      have chain : Chain e d ((s.without i).push j) := h.toChain.congr rfl (jobs_without at_i)
      rw [Session.move, turn_eq at_i]
      exact chain.recorded_work { set with bridge } recorded

/-- When all rounds are over, no job adds an outcome. -/
theorem Orderly.outcomes_turn (set : Setting σ) (h : Orderly e Phase.order.length s) :
    Orderly e Phase.order.length (s.turn set 0) ∧ (s.turn set 0).outcomes = s.outcomes := by
  rcases h.move set (.turn set.bridge 0) with ⟨kept, same⟩ | ⟨_, _, _, _, -, beyond, -⟩
  · exact ⟨kept, congrArg Prod.fst same⟩
  · cases beyond

/-! ## Counts -/

/-- What is counted of a page, given the outcomes of a batch that broke off: the count tells how many runs came to
their end, and the badge shows it. -/
structure Tally (badge : Page.Badge) (lost : List Outcome) (s : Session σ) : Prop where
  runCount : s.runCount = (s.outcomes ++ lost).countP Outcome.ok
  shows : s.document.indicator.Shows badge false s.runCount

namespace Tally

theorem of_counts (same : t.counts = s.counts) (h : Tally badge lost s) : Tally badge lost t := by
  simp only [counts, Prod.mk.injEq] at same
  obtain ⟨outcomes, runCount, indicator⟩ := same
  refine ⟨?_, ?_⟩
  · rw [runCount, outcomes, h.runCount]
  · rw [indicator, runCount]
    exact h.shows

/-- A batch was run: what it made is left, or it is lost. -/
theorem adds (left : List Outcome) {u : Session σ} (h : Tally badge [] s) (serves : s.Serves set p scripts u)
    (adds : Adds (left ++ lost) left u.account t.account) : Tally badge lost t := by
  obtain ⟨log, engine, -, beside⟩ := serves
  have same : u.counts = s.counts := counts_of_account (s := { s with engine, log := _ }) beside.account
  obtain ⟨runCount, shows⟩ := h.of_counts same
  have more : t.runCount = u.runCount + (left ++ lost).countP Outcome.ok := adds.runCount
  have outcomes : t.outcomes = u.outcomes ++ left := adds.outcomes
  refine ⟨?_, adds.shows badge false shows⟩
  rw [more, runCount, outcomes, List.append_nil]
  simp only [List.countP_append, Nat.add_assoc]

theorem ended (ended : Ended set p s t) (h : Tally badge [] s) : Tally badge [] t := by
  cases ended with
  | refused _ _ kept => exact h.of_counts (congrArg (fun b => (b.outcomes, b.runCount, b.indicator)) kept)
  | ran serves _ adds => exact h.adds _ serves (by rwa [List.append_nil])

theorem broken (broken : Broken set p s t lost) (h : Tally badge [] s) : Tally badge lost t := by
  obtain ⟨serves, -, -, adds⟩ := broken
  exact h.adds [] serves adds

end Tally

/-- What holds of count, badge and outcomes after any run. -/
theorem tally_after (set : Setting σ) (fresh : Fresh s) (recorded : s.Recorded) (tally : Tally badge [] s)
    (moves : List (Move σ)) :
    ∃ e d lost, History set s moves e d lost ∧ (s.after set moves).Recorded ∧ Tally badge lost (s.after set moves) := by
  have all : (s.after set moves).Recorded := by
    induction moves using List.reverseRecOn with
    | nil => exact recorded
    | append_singleton moves m ih =>
      obtain ⟨e, d, lost, history⟩ := history_after set fresh moves
      rw [after_concat]
      exact history.orderly.recorded_move set ih m
  obtain ⟨e, d, lost, history, tally⟩ :=
    history_with (P := Tally badge) Tally.of_counts Tally.ended Tally.broken set fresh tally moves
  exact ⟨e, d, lost, history, all, tally⟩

end Userscript.Session
