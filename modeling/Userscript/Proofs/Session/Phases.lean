import Mathlib.Data.List.Induction
import Mathlib.Data.List.Perm.Basic
import Mathlib.Data.List.TakeDrop
import Userscript.Proofs.Session.Orderly

/-!
# Userscript.Proofs.Session.Phases

The three phases of a page, over whole runs.

A run is any list of moves: the engine is attached, the source of the page is read, all is loaded, or the loop
does a job. The loop may do any job that waits, and the bridge may behave in another way at each turn, so that
an answer may be good or bad and take as long as it likes.

* `Session.after` is a run, and `Session.runUntil_eq_after`: doing the oldest job first is one;
* `History` is what a run left: each round that is over ended in some move of it, or stands behind one whose batch broke
  off, and `history_with`: each run leaves such a history;
* `phases_in_order`: the phases are asked for in order, one after the end of the other, and all of them are unless a
  batch breaks off.
-/

namespace Userscript.Session

open Page

variable {σ : Type} {set : Setting σ} {e e' d n : Nat} {s t : Session σ} {p : Phase} {lost : List Outcome}

/-! ## Moves -/

inductive Move (σ : Type) where
  | attach
  | parsed
  | loaded
  /-- The loop does one of the jobs that wait; the bridge is as it is at that moment. -/
  | turn (bridge : Bridge σ) (i : Nat)

/-- Does one of the jobs that wait. -/
def turn (set : Setting σ) (i : Nat) (s : Session σ) : Session σ :=
  match s.queue[i]? with
  | none => s
  | some j => { s with queue := s.queue.eraseIdx i }.work set j

def move (set : Setting σ) : Move σ → Session σ → Session σ
  | .attach, s => s.attach
  | .parsed, s => s.finishParsing
  | .loaded, s => s.finishLoading
  | .turn bridge i, s => s.turn { set with bridge } i

def after (set : Setting σ) (moves : List (Move σ)) (s : Session σ) : Session σ :=
  moves.foldl (fun s m => s.move set m) s

theorem after_append (front back : List (Move σ)) (s : Session σ) :
    s.after set (front ++ back) = (s.after set front).after set back :=
  List.foldl_append

theorem after_concat (moves : List (Move σ)) (m : Move σ) (s : Session σ) :
    s.after set (moves ++ [m]) = (s.after set moves).move set m :=
  after_append moves [m] s

/-- Doing the oldest job first is a run. -/
theorem runUntil_eq_after (set : Setting σ) (stop : Job → Session σ → Bool) (fuel : Nat) (s : Session σ) :
    ∃ n, (s.runUntil set stop fuel).2 = s.after set (List.replicate n (.turn set.bridge 0)) := by
  induction fuel generalizing s with
  | zero => exact ⟨0, rfl⟩
  | succ fuel ih =>
    rw [runUntil]
    cases queue : s.queue with
    | nil =>
      rw [step, queue]
      exact ⟨0, rfl⟩
    | cons j rest =>
      have first : s.move set (.turn set.bridge 0) = { s with queue := rest }.work set j := by
        simp [move, turn, queue]
      rw [step, queue]
      simp only
      split
      · exact ⟨1, first.symm⟩
      · obtain ⟨n, same⟩ := ih ({ s with queue := rest }.work set j)
        refine ⟨n + 1, ?_⟩
        rw [same, after, after, List.replicate_succ, List.foldl_cons, first]

/-! ## Turns -/

/-- A job that waits is taken from the queue. -/
def without (i : Nat) (s : Session σ) : Session σ := { s with queue := s.queue.eraseIdx i }

theorem turn_eq {i : Nat} {j : Job} (at_i : s.queue[i]? = some j) :
    s.turn set i = (s.without i).work set j := by
  rw [turn, at_i]
  rfl

theorem turn_of_none {i : Nat} (none : s.queue[i]? = none) : s.turn set i = s := by rw [turn, none]

theorem page_turn (set : Setting σ) (i : Nat) (s : Session σ) : (s.turn set i).page = s.page := by
  cases at_i : s.queue[i]? with
  | none => rw [turn_of_none at_i]
  | some j =>
    rw [turn_eq at_i]
    exact page_work set j (s.without i)

theorem jobs_without {i : Nat} {j : Job} (at_i : s.queue[i]? = some j) :
    ((s.without i).push j).jobs.Perm s.jobs := by
  obtain ⟨inside, rfl⟩ := List.getElem?_eq_some_iff.mp at_i
  refine List.Perm.filterMap _ ?_
  exact (List.perm_append_singleton _ _).trans (List.getElem_cons_eraseIdx_perm inside)

/-- A job that is about a round is taken from the queue. -/
theorem beside_without {i : Nat} {j : Job} (at_i : s.queue[i]? = some j) (about : j.about? ≠ none) :
    s.Beside (s.without i) := by
  obtain ⟨inside, rfl⟩ := List.getElem?_eq_some_iff.mp at_i
  have other : Job.report? s.queue[i] = none := by
    cases job : s.queue[i] with
    | report o => exact absurd (by rw [job]; rfl) about
    | _ => rfl
  refine ⟨⟨_, _, _, rfl⟩, ?_⟩
  -- The order of the reports counts, so the queue is split where the job was.
  have split : s.queue = s.queue.take i ++ s.queue[i] :: s.queue.drop (i + 1) := by
    rw [← List.drop_eq_getElem_cons inside, List.take_append_drop]
  rw [reports, reports, without, List.eraseIdx_eq_take_drop_succ]
  conv => rhs; rw [split]
  rw [List.filterMap_append, List.filterMap_append, List.filterMap_cons_none other]

/-- A job is done, whichever of those that wait: the page stays in order, and what it counts, or the round that is next
ends. -/
theorem Orderly.turn (set : Setting σ) (h : Orderly e d s) {i : Nat} {j : Job} (at_i : s.queue[i]? = some j) :
    (Orderly e d (s.turn set i) ∧ (s.turn set i).counts = s.counts ∧
        (j.about? ≠ none → s.Beside (s.turn set i))) ∨
      ∃ b p e', j.about? = some (d, b) ∧ Phase.order[d]? = some p ∧ Orderly e' (d + 1) (s.turn set i) ∧
        Ending set p s (s.turn set i) e d e' := by
  have chain : Chain e d ((s.without i).push j) := h.toChain.congr rfl (jobs_without at_i)
  have page := page_turn set i s
  rw [turn_eq at_i] at page ⊢
  rcases chain.work set with ⟨kept, beside⟩ | ⟨b, p, e', about, at_d, next, ending⟩
  · refine .inl ⟨h.of_page kept page, ?_, fun about => (beside_without at_i about).trans (beside about)⟩
    by_cases about : j.about? = none
    · exact counts_work set about (s.without i)
    · exact counts_of_account ((beside_without at_i about).trans (beside about)).account
  · have taken : s.Beside (s.without i) := beside_without at_i (by rw [about]; exact Option.some_ne_none _)
    exact .inr ⟨b, p, e', about, at_d, h.of_page next page, ending.of_beside taken⟩

/-! ## Runs -/

def Over (p : Phase) (s : Session σ) : Prop := ∃ r ∈ s.rounds, r.phase = p ∧ r.stand.isOver = true

def Failed (p : Phase) (s : Session σ) : Prop := ∃ r ∈ s.rounds, r.phase = p ∧ ∃ f, r.stand = .failed f

/-- A move that ends the round of a phase well. -/
inductive Ends (set : Setting σ) (p : Phase) (s : Session σ) : Move σ → Prop
  | turn {bridge : Bridge σ} {i : Nat} : ¬ s.Over p → (s.turn { set with bridge } i).Over p →
      Ended { set with bridge } p s (s.turn { set with bridge } i) → Ends set p s (.turn bridge i)

/-- A move in which the batch of a phase breaks off. -/
inductive Breaks (set : Setting σ) (p : Phase) (lost : List Outcome) (s : Session σ) : Move σ → Prop
  | turn {bridge : Bridge σ} {i : Nat} : ¬ s.Over p → (s.turn { set with bridge } i).Failed p →
      Broken { set with bridge } p s (s.turn { set with bridge } i) lost → Breaks set p lost s (.turn bridge i)

/-- A run that has a move of a kind. -/
def Has (set : Setting σ) (kind : Session σ → Move σ → Prop) (s : Session σ) (moves : List (Move σ)) : Prop :=
  ∃ before m rest, moves = before ++ m :: rest ∧ kind (s.after set before) m

/-- A run in which the round of a phase ends well. -/
def EndsIn (set : Setting σ) (p : Phase) : Session σ → List (Move σ) → Prop := Has set (Ends set p)

/-- A run in which the batch of a phase breaks off. -/
def BreaksIn (set : Setting σ) (p : Phase) (lost : List Outcome) : Session σ → List (Move σ) → Prop :=
  Has set (Breaks set p lost)

theorem Has.concat {kind : Session σ → Move σ → Prop} {moves : List (Move σ)} (h : Has set kind s moves) (m : Move σ) :
    Has set kind s (moves ++ [m]) := by
  obtain ⟨before, m', rest, rfl, ends⟩ := h
  exact ⟨before, m', rest ++ [m], by rw [List.append_assoc, List.cons_append], ends⟩

theorem Has.last {kind : Session σ → Move σ → Prop} {moves : List (Move σ)} {m : Move σ}
    (h : kind (s.after set moves) m) : Has set kind s (moves ++ [m]) := ⟨moves, m, [], rfl, h⟩

theorem idxOf_order (at_n : Phase.order[n]? = some p) : Phase.order.idxOf p = n := by
  have once : Phase.order.Nodup := by decide
  obtain ⟨inside, rfl⟩ := List.getElem?_eq_some_iff.mp at_n
  exact once.idxOf_getElem n inside

theorem order_idxOf (p : Phase) : Phase.order[Phase.order.idxOf p]? = some p := by cases p <;> rfl

namespace Chain

/-- The rounds that are over are the first ones. -/
theorem over_iff (h : Chain e d s) : s.Over p ↔ p ∈ Phase.order.take d := by
  rw [List.mem_take_iff_getElem]
  constructor
  · rintro ⟨r, mem, rfl, past⟩
    obtain ⟨n, inside, rfl⟩ := List.getElem_of_mem mem
    obtain ⟨phase, -, -, standing⟩ := h.placed n _ (List.getElem?_eq_getElem inside)
    obtain ⟨short, at_n⟩ := List.getElem?_eq_some_iff.mp phase
    have first : n < d := by
      by_contra ahead
      rcases standing.of_le h.well_le (Nat.le_of_not_lt ahead) with stand | stand | stand
      all_goals
        rw [stand] at past
        cases past
    exact ⟨n, Nat.lt_min.mpr ⟨first, short⟩, at_n⟩
  · rintro ⟨n, short, at_n⟩
    have first : n < d := (Nat.lt_min.mp short).1
    have inside : n < s.rounds.length := Nat.lt_of_lt_of_le first h.over_le
    obtain ⟨phase, -, -, standing⟩ := h.placed n _ (List.getElem?_eq_getElem inside)
    rw [List.getElem?_eq_getElem (Nat.lt_min.mp short).2, Option.some.injEq, at_n] at phase
    refine ⟨s.rounds[n], List.getElem_mem inside, phase.symm, ?_⟩
    rcases standing.of_lt first with ⟨-, outcomes, stand⟩ | ⟨-, f, stand⟩
    · rw [stand]
      rfl
    · rw [stand]
      rfl

/-- The rounds that failed are the last ones of those that are over. -/
theorem failed_iff (h : Chain e d s) : s.Failed p ↔ e ≤ Phase.order.idxOf p ∧ Phase.order.idxOf p < d := by
  constructor
  · rintro ⟨r, mem, rfl, f, failed⟩
    obtain ⟨n, inside, rfl⟩ := List.getElem_of_mem mem
    obtain ⟨phase, -, -, standing⟩ := h.placed n _ (List.getElem?_eq_getElem inside)
    rw [failed] at standing
    rw [idxOf_order phase]
    exact standing.of_failed
  · rintro ⟨le, lt⟩
    have inside : Phase.order.idxOf p < s.rounds.length := Nat.lt_of_lt_of_le lt h.over_le
    obtain ⟨phase, -, -, standing⟩ := h.placed _ _ (List.getElem?_eq_getElem inside)
    refine ⟨_, List.getElem_mem inside, Option.some.inj (phase.symm.trans (order_idxOf p)), ?_⟩
    rcases standing.of_lt lt with ⟨early, -⟩ | ⟨-, failed⟩
    · omega
    · exact failed

end Chain

theorem not_mem_take_order (at_d : Phase.order[d]? = some p) : p ∉ Phase.order.take d := by
  intro mem
  obtain ⟨k, short, same⟩ := List.mem_take_iff_getElem.mp mem
  have inside : k < Phase.order.length := (Nat.lt_min.mp short).2
  have earlier : Phase.order.idxOf p = k := idxOf_order (by rw [List.getElem?_eq_getElem inside, same])
  have := idxOf_order at_d
  exact Nat.ne_of_lt (Nat.lt_min.mp short).1 (by omega)

/-- Any move keeps a page in order, and what it counts, or ends the round that is next. -/
theorem Orderly.move (set : Setting σ) (h : Orderly e d s) (m : Move σ) :
    (Orderly e d (s.move set m) ∧ (s.move set m).counts = s.counts) ∨
      ∃ p e' bridge i, m = .turn bridge i ∧ Phase.order[d]? = some p ∧ Orderly e' (d + 1) (s.move set m) ∧
        Ending { set with bridge } p s (s.move set m) e d e' := by
  cases m with
  | attach =>
    exact .inl ⟨h.attach, attach_keeps (P := fun t => t.counts = s.counts) (fun _ _ h => h) (fun _ _ _ _ h => h) rfl⟩
  | parsed =>
    exact .inl ⟨h.finishParsing,
      through_keeps (P := fun t => t.counts = s.counts) (fun _ _ h => h) (fun _ _ _ _ h => h) _ rfl⟩
  | loaded =>
    exact .inl ⟨h.finishLoading,
      through_keeps (P := fun t => t.counts = s.counts) (fun _ _ h => h) (fun _ _ _ _ h => h) _ rfl⟩
  | turn bridge i =>
    cases at_i : s.queue[i]? with
    | none =>
      left
      rw [Session.move, turn_of_none at_i]
      exact ⟨h, rfl⟩
    | some j =>
      rcases h.turn { set with bridge } at_i with ⟨kept, counts, -⟩ | ⟨b, p, e', -, at_d, next, ending⟩
      · exact .inl ⟨kept, counts⟩
      · exact .inr ⟨p, e', bridge, i, rfl, at_d, next, ending⟩

/-- The round that is next was not over, and it is when one more is. -/
theorem Orderly.over_next (h : Orderly e d s) (next : Orderly e' (d + 1) t) (at_d : Phase.order[d]? = some p) :
    ¬ s.Over p ∧ t.Over p := by
  rw [h.over_iff, next.over_iff, List.take_add_one, at_d]
  exact ⟨not_mem_take_order at_d, List.mem_append_right _ (List.mem_singleton_self p)⟩

/-- A move asks for one batch at most, and only when all rounds that asked before ended well. -/
theorem Orderly.requested_move (set : Setting σ) (h : Orderly e d s) (m : Move σ) :
    (s.move set m).requested = s.requested ∨
      e = d ∧ s.requested = Phase.order.take d ∧ ∃ p, (s.move set m).requested = s.requested ++ [p] := by
  cases m with
  | attach => exact .inl (attach_keeps (P := fun t => t.requested = s.requested) (fun _ _ h => h) (fun _ _ _ _ h => h) rfl)
  | parsed | loaded =>
    exact .inl (through_keeps (P := fun t => t.requested = s.requested) (fun _ _ h => h) (fun _ _ _ _ h => h) _ rfl)
  | turn bridge i =>
    cases at_i : s.queue[i]? with
    | none =>
      left
      rw [Session.move, turn_of_none at_i]
    | some j =>
      have chain : Chain e d ((s.without i).push j) := h.toChain.congr rfl (jobs_without at_i)
      rw [Session.move, turn_eq at_i]
      exact chain.requested_work { set with bridge }

/-- A page to which no engine was attached yet. -/
structure Fresh (s : Session σ) : Prop where
  state : s.document.state = .loading ∨ s.document.state = .interactive ∨ s.document.state = .complete
  listeners : s.document.listeners = []
  attached : s.attached = false
  queue : s.queue = []
  rounds : s.rounds = []
  last : s.last = none
  requested : s.requested = []
  idle : s.idle = false

theorem Fresh.orderly (h : Fresh s) : Orderly 0 0 s := by
  have jobs : s.jobs = [] := by
    rw [jobs, h.queue]
    rfl
  refine ⟨⟨?_, ?_, ?_, Nat.le_refl 0, Nat.zero_le _, ?_, h.idle⟩, ?_, ?_, fun _ => h.listeners, ?_, ?_⟩
  · intro n r found
    rw [h.rounds] at found
    cases found
  · rw [h.last, h.rounds]
    rfl
  · intro n b _
    rw [jobs]
    rfl
  · rw [h.requested, jobs]
    rfl
  · rcases h.state with state | state | state
    all_goals
      rw [state]
      decide
  · rw [h.rounds, h.attached]
    rfl
  · exact fun attached => absurd (h.attached.symm.trans attached) Bool.false_ne_true
  · exact fun attached => absurd (h.attached.symm.trans attached) Bool.false_ne_true

/-- What a run left of a page: it is in order, the first rounds ended well in the run, and in front of those that failed
is one whose batch broke off in it. -/
structure History (set : Setting σ) (s : Session σ) (moves : List (Move σ)) (e d : Nat) (lost : List Outcome) : Prop
    where
  orderly : Orderly e d (s.after set moves)
  ended : ∀ p ∈ Phase.order.take e, EndsIn set p s moves
  broken : e < d → ∃ p, Phase.order[e]? = some p ∧ BreaksIn set p lost s moves
  none : e = d → lost = []

namespace History

variable {moves : List (Move σ)}

theorem keep (h : History set s moves e d lost) {m : Move σ} (kept : Orderly e d ((s.after set moves).move set m)) :
    History set s (moves ++ [m]) e d lost where
  orderly := by
    rw [after_concat]
    exact kept
  ended p mem := (h.ended p mem).concat m
  broken failed := by
    obtain ⟨p, at_e, breaks⟩ := h.broken failed
    exact ⟨p, at_e, breaks.concat m⟩
  none := h.none

/-- The round that is next ends well. -/
theorem well (h : History set s moves e d lost) {bridge : Bridge σ} {i : Nat} (at_d : Phase.order[d]? = some p)
    (next : Orderly e' (d + 1) ((s.after set moves).move set (.turn bridge i))) (first : e = d) (grown : e' = d + 1)
    (ended : Ended { set with bridge } p (s.after set moves) ((s.after set moves).move set (.turn bridge i))) :
    History set s (moves ++ [.turn bridge i]) e' (d + 1) [] where
  orderly := by
    rw [after_concat]
    exact next
  ended q mem := by
    subst first grown
    rw [List.take_add_one, at_d, List.mem_append] at mem
    rcases mem with mem | mem
    · exact (h.ended q mem).concat _
    · obtain rfl := List.mem_singleton.mp mem
      obtain ⟨before, after⟩ := h.orderly.over_next next at_d
      exact Has.last (.turn before after ended)
  broken failed := by omega
  none _ := rfl

/-- The batch of the round that is next breaks off. -/
theorem breaks {lost' : List Outcome} (h : History set s moves d d lost) {bridge : Bridge σ} {i : Nat}
    (at_d : Phase.order[d]? = some p)
    (next : Orderly d (d + 1) ((s.after set moves).move set (.turn bridge i)))
    (broken : Broken { set with bridge } p (s.after set moves) ((s.after set moves).move set (.turn bridge i)) lost') :
    History set s (moves ++ [.turn bridge i]) d (d + 1) lost' where
  orderly := by
    rw [after_concat]
    exact next
  ended q mem := (h.ended q mem).concat _
  broken _ := by
    have failed : ((s.after set moves).move set (.turn bridge i)).Failed p := by
      rw [next.failed_iff, idxOf_order at_d]
      exact ⟨Nat.le_refl d, Nat.lt_succ_self d⟩
    exact ⟨p, at_d, Has.last (.turn (h.orderly.over_next next at_d).1 failed broken)⟩
  none whole := by omega

/-- The round that is next fails behind another one. -/
theorem drop (h : History set s moves e d lost) {m : Move σ} (fewer : e < d)
    (next : Orderly e (d + 1) ((s.after set moves).move set m)) :
    History set s (moves ++ [m]) e (d + 1) lost where
  orderly := by
    rw [after_concat]
    exact next
  ended q mem := (h.ended q mem).concat m
  broken _ := by
    obtain ⟨p, at_e, breaks⟩ := h.broken fewer
    exact ⟨p, at_e, breaks.concat m⟩
  none whole := by omega

end History

/-- Each run leaves such a history, and with it whatever no move changes that leaves the counts of a page, the end of a
round keeps, and a batch that breaks off turns into what is said of the outcomes that it lost. -/
theorem history_with {P : List Outcome → Session σ → Prop}
    (kept : ∀ {lost s t}, t.counts = s.counts → P lost s → P lost t)
    (ended : ∀ {set : Setting σ} {p s t}, Ended set p s t → P [] s → P [] t)
    (broken : ∀ {set : Setting σ} {p s t lost}, Broken set p s t lost → P [] s → P lost t)
    (set : Setting σ) (fresh : Fresh s) (first : P [] s) (moves : List (Move σ)) :
    ∃ e d lost, History set s moves e d lost ∧ P lost (s.after set moves) := by
  -- By the last move: it keeps the number of rounds that are over, or ends one more.
  induction moves using List.reverseRecOn with
  | nil =>
    refine ⟨0, 0, [], ⟨fresh.orderly, fun p mem => ?_, fun failed => absurd failed (Nat.lt_irrefl 0), fun _ => rfl⟩, first⟩
    cases mem
  | append_singleton moves m ih =>
    obtain ⟨e, d, lost, history, now⟩ := ih
    rw [after_concat]
    rcases history.orderly.move set m with ⟨orderly, same⟩ | ⟨p, e', bridge, i, rfl, at_d, next, ending⟩
    · exact ⟨e, d, lost, history.keep orderly, kept same now⟩
    · cases ending with
      | well whole well =>
        rw [history.none whole] at now
        exact ⟨d + 1, d + 1, [], history.well at_d next whole rfl well, ended well now⟩
      | @broken lost' whole breaks =>
        rw [history.none whole] at now
        subst whole
        exact ⟨e, e + 1, lost', history.breaks at_d next breaks, broken breaks now⟩
      | dropped fewer _ same =>
        exact ⟨e, d + 1, lost, history.drop fewer next, kept (counts_of_account same) now⟩

theorem history_after (set : Setting σ) (fresh : Fresh s) (moves : List (Move σ)) :
    ∃ e d lost, History set s moves e d lost := by
  obtain ⟨e, d, lost, history, -⟩ :=
    history_with (P := fun _ _ => True) (fun _ h => h) (fun _ h => h) (fun _ h => h) set fresh trivial moves
  exact ⟨e, d, lost, history⟩

/-- A loaded page with the engine and no job for its rounds: all of them are over. -/
theorem Orderly.all_over (h : Orderly e d s) (attached : s.attached = true)
    (complete : s.document.state = .complete) (none : s.jobs = []) : d = Phase.order.length := by
  have length : s.rounds.length = Phase.order.length := by
    rw [h.due, if_pos attached, complete]
    rfl
  by_contra some
  have inside : d < s.rounds.length := by
    have within := h.over_le
    omega
  have one := (h.placed d _ (List.getElem?_eq_getElem inside)).standing.of_eq h.well_le rfl
  rw [none] at one
  cases one

/-- What is known of a page all of whose rounds are over. -/
theorem Orderly.complete (h : Orderly e Phase.order.length s) :
    s.attached = true ∧ s.document.state = .complete ∧ s.idle = true ∧ (∀ p, s.Over p) ∧
      (s.requested = Phase.order ↔ ¬ s.Failed .start ∧ ¬ s.Failed .parsed) := by
  have three : 3 ≤ s.rounds.length := h.over_le
  have due := h.due
  have attached : s.attached = true := by
    by_contra not
    rw [if_neg not] at due
    omega
  rw [if_pos attached] at due
  refine ⟨attached, ?_, h.idle, ?_, ?_⟩
  · cases state : s.document.state with
    | complete => rfl
    | loading | interactive | other =>
      rw [state, dueIn] at due
      omega
  · intro p
    rw [h.over_iff, List.take_length]
    cases p <;> decide
  · have start : Phase.order.idxOf .start = 0 := by decide
    have parsed : Phase.order.idxOf .parsed = 1 := by decide
    have length : Phase.order.length = 3 := rfl
    rw [h.requested, List.take_eq_self_iff, h.failed_iff, h.failed_iff, start, parsed, length]
    omega

/-- A turn of a phase leaves nothing, or its batch was answered, and it ends the phase or breaks off. -/
theorem Orderly.effects_turn (set : Setting σ) (h : Orderly e d s) {bridge : Bridge σ} {i : Nat} {j : Job} {b : Bool}
    (at_i : s.queue[i]? = some j) (about : j.about? = some (n, b)) :
    (s.move set (.turn bridge i)).effects = s.effects ∨
      ∃ p scripts log engine, Phase.order[n]? = some p ∧
        bridge.select s.document.url p s.engine = (.ok scripts, log, engine) ∧
        (Ends set p s (.turn bridge i) ∨ ∃ lost, Breaks set p lost s (.turn bridge i)) := by
  rcases h.turn { set with bridge } at_i with ⟨-, -, beside⟩ | ⟨c, p, e', about', at_d, next, ending⟩
  · exact .inl (beside (by rw [about]; exact Option.some_ne_none _)).effects
  · obtain ⟨before, after⟩ := h.over_next next at_d
    have same : n = d := congrArg Prod.fst (Option.some.inj (about.symm.trans about'))
    rw [← same] at at_d
    cases ending with
    | well first ended =>
      cases ended with
      | refused none quiet => exact .inl quiet
      | @ran scripts _ _ serves done adds =>
        have ends : Ends set p s (.turn bridge i) := .turn before after (.ran serves done adds)
        obtain ⟨log, engine, answered, -⟩ := serves
        exact .inr ⟨p, scripts, log, engine, at_d, answered, .inl ends⟩
    | @broken lost first broken =>
      have failed : (s.turn { set with bridge } i).Failed p := by
        rw [next.failed_iff, idxOf_order at_d]
        omega
      have breaks : Breaks set p lost s (.turn bridge i) := .turn before failed broken
      obtain ⟨⟨log, engine, answered, -⟩, -, -, -⟩ := broken
      exact .inr ⟨p, _, log, engine, at_d, answered, .inr ⟨lost, breaks⟩⟩
    | dropped fewer quiet => exact .inl quiet

/-- The phase that was asked for last is the one whose batch broke off, if any did. -/
theorem Chain.last_requested (h : Chain e d s) (failed : e < d) (at_e : Phase.order[e]? = some p) :
    s.requested.getLast? = some p := by
  have first : min (e + 1) (d + s.jobs.count (d, true)) = e + 1 := by omega
  rw [h.requested, first, List.take_add_one, at_e]
  exact List.getLast?_concat

/-- The phases of a page, over any run. They are asked for in order, one by one, and only after all that were asked for
before ended well in the run. A turn of a phase that leaves something ends the phase, and its batch was answered; a
phase that is over stays over. When all is done, the page is idle, and each phase was asked for unless one of the first
two failed; the page is idle only then. A phase fails only if the batch of the last phase asked for broke off. -/
theorem phases_in_order (set : Setting σ) {s₀ s : Session σ} (fresh : Fresh s₀) {moves : List (Move σ)}
    (run : s₀.after set moves = s) :
    s.requested <+: Phase.order ∧
    (∀ m, (s.move set m).requested = s.requested ∨
      ∃ p, (s.move set m).requested = s.requested ++ [p] ∧ ∀ q ∈ s.requested, EndsIn set q s₀ moves) ∧
    (∀ bridge i j n b, s.queue[i]? = some j → j.about? = some (n, b) →
      (s.move set (.turn bridge i)).effects = s.effects ∨
        ∃ p scripts log engine, Phase.order[n]? = some p ∧
          bridge.select s.document.url p s.engine = (.ok scripts, log, engine) ∧
          (Ends set p s (.turn bridge i) ∨ ∃ lost, Breaks set p lost s (.turn bridge i))) ∧
    (∀ m p, s.Over p → (s.move set m).Over p) ∧
    (s.attached = true → s.document.state = .complete → s.jobs = [] →
      s.idle = true ∧ (s.requested = Phase.order ↔ ¬ s.Failed .start ∧ ¬ s.Failed .parsed)) ∧
    (s.idle = true → s.attached = true ∧ s.document.state = .complete ∧ ∀ p, s.Over p) ∧
    (∀ p, s.Failed p → ∃ q lost, s.requested.getLast? = some q ∧ BreaksIn set q lost s₀ moves) := by
  obtain ⟨e, d, lost, history⟩ := history_after set fresh moves
  have order : Orderly e d s := run ▸ history.orderly
  refine ⟨?_, ?_, ?_, ?_, ?_, ?_, ?_⟩
  -- The phases asked for are a first part of the three, by the order that every move keeps.
  · rw [order.requested]
    exact List.take_prefix _ _
  · intro m
    rcases order.requested_move set m with kept | ⟨rfl, before, p, asked⟩
    · exact .inl kept
    · right
      refine ⟨p, asked, ?_⟩
      rw [before]
      exact history.ended
  · intro bridge i j n b at_i about
    exact order.effects_turn set at_i about
  · intro m p past
    rw [order.over_iff] at past
    rcases order.move set m with ⟨kept, -⟩ | ⟨_, _, _, _, -, -, next, -⟩
    · exact kept.over_iff.mpr past
    · exact next.over_iff.mpr (List.take_subset_take_left _ (Nat.le_succ d) past)
  · intro attached complete none
    obtain rfl := order.all_over attached complete none
    obtain ⟨-, -, idle, -, all⟩ := order.complete
    exact ⟨idle, all⟩
  · intro idle
    obtain rfl : d = Phase.order.length := by
      have all := order.idle
      rw [idle] at all
      exact of_decide_eq_true all.symm
    obtain ⟨attached, complete, -, past, -⟩ := order.complete
    exact ⟨attached, complete, past⟩
  · intro p failed
    rw [order.failed_iff] at failed
    -- Rounds `e` up to `d` failed; they stand behind round `e`, the last one that asked.
    obtain ⟨q, at_e, breaks⟩ := history.broken (Nat.lt_of_le_of_lt failed.1 failed.2)
    exact ⟨q, lost, order.last_requested (Nat.lt_of_le_of_lt failed.1 failed.2) at_e, breaks⟩

/-- A bridge whose first batch is a script without words for its error. -/
def breaking : Bridge Unit where
  select _ p _ := (.ok (if p = .start then [unwritten] else []), [], ())
  laps _ := 0
  report _ _ _ := (.ok (), ())

/-- A page to which the engine is attached at once, and which is loaded after that. -/
def visit : List (Move Unit) :=
  [.attach, .turn breaking 0, .parsed, .turn breaking 0, .loaded, .turn breaking 0, .turn breaking 0]

def blank : Session Unit where
  document := { url := "https://a.example/" }
  storage := { quota := 1024 }
  relay := .new [] "" true
  engine := ()

/-- The page when its first batch was asked for. -/
def blankAsked : Session Unit := (blank.attach.without 0).asking 0 .start

/-- The page as the script left it. -/
def blankBroken : Session Unit := { blankAsked with memory := blankAsked.memory.withUnwritten }

theorem runRound_blankAsked :
    blankAsked.runRound { bridge := breaking } 0 .start = blankBroken.finish 0 (.failed Machine.wordless) := by
  have known : blankAsked.document.origin = .ok "https://a.example" := by rfl
  have answered : breaking.select blankAsked.document.url .start blankAsked.engine = (.ok [unwritten], [], ()) := rfl
  have same : { blankAsked with engine := (), log := blankAsked.log ++ [] } = blankAsked := rfl
  have broken : blankAsked.runBatch { bridge := breaking } later [unwritten] = (.error Machine.wordless, blankBroken) :=
    runBatch_unwritten (by decide) known []
  rw [runRound, answered]
  simp only [same, broken]

theorem after_visit : blank.after { bridge := breaking } visit =
    (blankBroken.finish 0 (.failed Machine.wordless)).after { bridge := breaking } (visit.drop 2) := by
  have first : blank.attach.queue[0]? = some (.round 0) := rfl
  have there : (blank.attach.without 0).round? 0 = some { phase := .start } := rfl
  have laps : breaking.laps (blank.attach.without 0).document.url = 0 := rfl
  have asks : (blank.attach.without 0).work { bridge := breaking } (.round 0) =
      blankAsked.runRound { bridge := breaking } 0 .start := by
    simp only [work, advance, there, ask_eq, Bool.false_eq_true, if_false, Option.bind_none, laps, blankAsked]
  have begin : blank.after { bridge := breaking } [.attach, .turn breaking 0] =
      blankBroken.finish 0 (.failed Machine.wordless) := by
    rw [← runRound_blankAsked, ← asks, ← turn_eq first]
    simp only [after, List.foldl_cons, List.foldl_nil, move]
  rw [← begin, ← after_append]
  rfl

/-- The batch of the first phase breaks off: the page is idle at the end, and the others were never asked for. -/
theorem phases_in_order_broken :
    let s := blank.after { bridge := breaking } visit
    s.idle = true ∧ s.requested = [.start] ∧ ∃ lost, BreaksIn { bridge := breaking } .start lost blank visit := by
  intro s
  have fresh : Fresh blank := ⟨.inl rfl, rfl, rfl, rfl, rfl, rfl, rfl, rfl⟩
  have left : s.requested = [.start] ∧ s.attached = true ∧ s.jobs = [] ∧ s.document.state = .complete := by
    rw [show s = _ from after_visit]
    decide +kernel
  obtain ⟨requested, attached, none, complete⟩ := left
  obtain ⟨-, -, -, -, settled, -, fails⟩ :=
    phases_in_order { bridge := breaking } fresh (show blank.after _ visit = s from rfl)
  obtain ⟨idle, all⟩ := settled attached complete none
  have failed : ∃ p, s.Failed p := by
    by_contra whole
    have asked := all.mpr ⟨fun first => whole ⟨_, first⟩, fun second => whole ⟨_, second⟩⟩
    rw [requested] at asked
    cases asked
  obtain ⟨p, failed⟩ := failed
  obtain ⟨q, lost, last, breaks⟩ := fails p failed
  rw [requested] at last
  obtain rfl : Phase.start = q := Option.some.inj last
  exact ⟨idle, requested, lost, breaks⟩

end Userscript.Session
