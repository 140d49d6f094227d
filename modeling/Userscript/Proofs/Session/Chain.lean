import Mathlib.Data.List.Count
import Mathlib.Data.List.Nodup
import Mathlib.Data.Nat.PSub
import Userscript.Proofs.Session.Accounts

/-!
# Userscript.Proofs.Session.Chain

The chain of rounds: each phase waits for the one before it.

At any moment some rounds are over, at most one asked for its batch, and those behind it have their turn in the
queue or wait. Nothing else is in the queue for a round, so no round is lost and none has two turns. A round whose
batch breaks off fails, and with it all rounds behind it, which never ask.

* `Chain` is what holds of a page of which `d` rounds are over, the first `e` of them without a failure;
* `Chain.schedule`: a phase that is put behind the others keeps it;
* `Chain.work`: any job that waits, whenever it is done, keeps it, or ends the round whose turn it is;
* `Ending` is how a round ends: well, at a batch that breaks off, or behind one that did.
-/

namespace Userscript.Session

variable {σ : Type} {set : Setting σ} {e e' d n : Nat} {s t : Session σ} {p : Phase}

/-! ## The chain -/

/-- How a round may stand when `d` rounds are over, the first `e` of them without a failure, and how many turns and
answers wait for it. -/
inductive Standing (e d n : Nat) : Stand → Nat → Nat → Prop
  | ended (outcomes : List Outcome) : n < e → Standing e d n (.done outcomes) 0 0
  | failed (f : Fault) : e ≤ n → n < d → Standing e d n (.failed f) 0 0
  | next : n = d → Standing e d n .queued 1 0
  | woken : n = d → Standing e d n .waiting 1 0
  | asked : e = d → n = d → Standing e d n .asked 0 1
  | queued : d < n → Standing e d n .queued 1 0
  | waiting : d < n → Standing e d n .waiting 0 0

theorem Standing.of_turn {stand : Stand} {turns answers : Nat} (h : Standing e d n stand turns answers)
    (turn : turns ≠ 0) :
    turns = 1 ∧ answers = 0 ∧ (n = d ∧ (stand = .queued ∨ stand = .waiting) ∨ d < n ∧ stand = .queued) := by
  cases h with
  | ended | failed | waiting => exact absurd rfl turn
  | next eq => exact ⟨rfl, rfl, .inl ⟨eq, .inl rfl⟩⟩
  | woken eq => exact ⟨rfl, rfl, .inl ⟨eq, .inr rfl⟩⟩
  | asked => exact absurd rfl turn
  | queued lt => exact ⟨rfl, rfl, .inr ⟨lt, rfl⟩⟩

theorem Standing.of_answer {stand : Stand} {turns answers : Nat} (h : Standing e d n stand turns answers)
    (answer : answers ≠ 0) : n = d ∧ e = d ∧ stand = .asked ∧ turns = 0 ∧ answers = 1 := by
  cases h with
  | asked well eq => exact ⟨eq, well, rfl, rfl, rfl⟩
  | _ => exact absurd rfl answer

theorem Standing.of_lt {stand : Stand} {turns answers : Nat} (h : Standing e d n stand turns answers)
    (early : n < d) : n < e ∧ (∃ outcomes, stand = .done outcomes) ∨ e ≤ n ∧ ∃ f, stand = .failed f := by
  cases h with
  | ended outcomes lt => exact .inl ⟨lt, outcomes, rfl⟩
  | failed f le _ => exact .inr ⟨le, f, rfl⟩
  | _ => omega

theorem Standing.of_failed {f : Fault} {turns answers : Nat} (h : Standing e d n (.failed f) turns answers) :
    e ≤ n ∧ n < d := by
  cases h with
  | failed _ le lt => exact ⟨le, lt⟩

theorem Standing.of_le {stand : Stand} {turns answers : Nat} (h : Standing e d n stand turns answers) (within : e ≤ d)
    (ahead : d ≤ n) : stand = .queued ∨ stand = .waiting ∨ stand = .asked := by
  cases h with
  | ended outcomes lt => omega
  | failed f _ lt => omega
  | next | queued => exact .inl rfl
  | woken | waiting => exact .inr (.inl rfl)
  | asked => exact .inr (.inr rfl)

theorem Standing.of_eq {stand : Stand} {turns answers : Nat} (h : Standing e d n stand turns answers) (within : e ≤ d)
    (current : n = d) : turns + answers = 1 := by
  cases h with
  | ended outcomes lt => omega
  | failed f _ lt => omega
  | next | woken | asked => rfl
  | queued lt | waiting lt => omega

/-- When the round before it is over, a round has its turn: one that waited is woken. -/
theorem Standing.advance {stand : Stand} {turns answers woken : Nat} (h : Standing e d n stand turns answers)
    (more : e' = e ∨ e = d ∧ e' = d + 1) (other : n ≠ d) (wakes : n = d + 1 → stand = .waiting → woken = 1)
    (leaves : ¬ (n = d + 1 ∧ stand = .waiting) → woken = 0) :
    Standing e' (d + 1) n stand (turns + woken) answers := by
  cases h with
  | ended outcomes lt =>
    rw [leaves (fun h => by cases h.2)]
    exact .ended outcomes (by omega)
  | failed f le lt =>
    rw [leaves (fun h => by cases h.2)]
    exact .failed f (by omega) (Nat.lt_succ_of_lt lt)
  | next eq => exact absurd eq other
  | woken eq => exact absurd eq other
  | asked _ eq => exact absurd eq other
  | queued lt =>
    rw [leaves (fun h => by cases h.2)]
    rcases Nat.eq_or_lt_of_le lt with eq | lt
    · exact .next eq.symm
    · exact .queued lt
  | waiting lt =>
    rcases Nat.eq_or_lt_of_le lt with eq | lt
    · rw [wakes eq.symm rfl]
      exact .woken eq.symm
    · rw [leaves (fun h => Nat.ne_of_gt lt h.1)]
      exact .waiting lt

/-- A round in its place, with the jobs that wait. -/
structure Placed (e d n : Nat) (jobs : List (Nat × Bool)) (r : Round) : Prop where
  phase : Phase.order[n]? = some r.phase
  previous : r.previous = n.ppred
  scheduled : r.scheduled = true
  standing : Standing e d n r.stand (jobs.count (n, false)) (jobs.count (n, true))

/-- What the chain goes by, the jobs apart. -/
def thread (s : Session σ) : List Round × Option Nat × List Phase × Bool :=
  (s.rounds, s.last, s.requested, s.idle)

/-- A page of which `d` rounds are over, the first `e` of them without a failure. -/
structure Chain (e d : Nat) (s : Session σ) : Prop where
  placed : ∀ n r, s.rounds[n]? = some r → Placed e d n s.jobs r
  last : s.last = s.rounds.length.ppred
  beyond : ∀ n b, s.rounds.length ≤ n → s.jobs.count (n, b) = 0
  well_le : e ≤ d
  over_le : d ≤ s.rounds.length
  /-- The round that failed first asked for its batch, and none behind it does. -/
  requested : s.requested = Phase.order.take (min (e + 1) (d + s.jobs.count (d, true)))
  idle : s.idle = decide (d = Phase.order.length)

namespace Chain

/-- The chain goes by its thread and the jobs, in whatever order these are. -/
theorem congr (h : Chain e d s) (same : t.thread = s.thread) (jobs : t.jobs.Perm s.jobs) : Chain e d t := by
  simp only [thread, Prod.mk.injEq] at same
  obtain ⟨rounds, last, requested, idle⟩ := same
  refine ⟨?_, ?_, ?_, h.well_le, ?_, ?_, ?_⟩
  · intro n r found
    rw [rounds] at found
    obtain ⟨phase, previous, scheduled, standing⟩ := h.placed n r found
    refine ⟨phase, previous, scheduled, ?_⟩
    rw [jobs.count_eq, jobs.count_eq]
    exact standing
  · rw [last, rounds, h.last]
  · intro n b long
    rw [jobs.count_eq]
    exact h.beyond n b (rounds ▸ long)
  · exact rounds ▸ h.over_le
  · rw [requested, jobs.count_eq, h.requested]
  · rw [idle, h.idle]

theorem of_course (h : Chain e d s) (same : t.course = s.course) : Chain e d t := by
  refine h.congr ?_ ?_
  · exact congrArg (fun c => (c.rounds, c.last, c.requested, c.idle)) same
  · exact List.Perm.of_eq (congrArg Course.jobs same)

theorem exists_of_count (h : Chain e d s) {b : Bool} (pos : s.jobs.count (n, b) ≠ 0) :
    ∃ r, s.rounds[n]? = some r ∧ Placed e d n s.jobs r := by
  have short : n < s.rounds.length := by
    by_contra long
    exact pos (h.beyond n b (Nat.le_of_not_lt long))
  exact ⟨_, List.getElem?_eq_getElem short, h.placed _ _ (List.getElem?_eq_getElem short)⟩

theorem schedule (h : Chain e d s) (next : Phase.order[s.rounds.length]? = some p) (yields : Bool) :
    Chain e d (s.schedule p yields) := by
  have count (n : Nat) (b : Bool) : (s.schedule p yields).jobs.count (n, b) =
      s.jobs.count (n, b) + if (s.rounds.length, false) = (n, b) then 1 else 0 := by
    have pushed := count_push (.round s.rounds.length) (n, b) s
    simp only [Job.about?, Option.some.injEq] at pushed
    exact pushed
  have apart {n : Nat} (b : Bool) (other : s.rounds.length ≠ n) :
      (s.schedule p yields).jobs.count (n, b) = s.jobs.count (n, b) := by
    rw [count, if_neg (fun same => other (congrArg Prod.fst same)), Nat.add_zero]
  have length : (s.schedule p yields).rounds.length = s.rounds.length + 1 := List.length_append
  refine ⟨?_, ?_, ?_, h.well_le, ?_, ?_, h.idle⟩
  · intro n r found
    -- The new round has its turn in the queue; the others stand as they did, for no job is about them.
    rcases Nat.lt_trichotomy s.rounds.length n with long | rfl | short
    · rw [List.getElem?_eq_none (by omega)] at found
      cases found
    · have new : r = { phase := p, previous := s.last, yields } := by
        rw [Session.schedule, List.getElem?_append_right (Nat.le_refl _), Nat.sub_self] at found
        exact (Option.some.inj found).symm
      subst new
      refine ⟨next, h.last, rfl, ?_⟩
      rw [count, count, h.beyond _ _ (Nat.le_refl _), h.beyond _ _ (Nat.le_refl _), if_pos rfl,
        if_neg (fun same => Bool.false_ne_true (congrArg Prod.snd same))]
      rcases Nat.eq_or_lt_of_le h.over_le with all | more
      · exact .next all.symm
      · exact .queued more
    · rw [Session.schedule, List.getElem?_append_left short] at found
      obtain ⟨phase, previous, scheduled, standing⟩ := h.placed n r found
      refine ⟨phase, previous, scheduled, ?_⟩
      rw [apart _ (Nat.ne_of_gt short), apart _ (Nat.ne_of_gt short)]
      exact standing
  · rw [length]
    rfl
  · intro n b long
    rw [apart b (by omega)]
    exact h.beyond n b (by omega)
  · rw [length]
    exact Nat.le_succ_of_le h.over_le
  · rw [count, if_neg (fun same => Bool.false_ne_true (congrArg Prod.snd same))]
    exact h.requested

theorem update (h : Chain e d s) {r : Round} {f : Round → Round} (found : s.rounds[n]? = some r)
    (rounds : t.rounds = s.rounds.modify n f) (last : t.last = s.last) (idle : t.idle = s.idle)
    (others : ∀ m b, m ≠ n → t.jobs.count (m, b) = s.jobs.count (m, b)) (placed : Placed e d n t.jobs (f r))
    (requested : t.requested = Phase.order.take (min (e + 1) (d + t.jobs.count (d, true)))) : Chain e d t := by
  have length : t.rounds.length = s.rounds.length := by rw [rounds, List.length_modify]
  have inside : n < s.rounds.length := (List.getElem?_eq_some_iff.mp found).1
  refine ⟨?_, ?_, ?_, h.well_le, ?_, requested, ?_⟩
  · intro m q at_m
    rw [rounds, List.getElem?_modify] at at_m
    -- The round changed stands as said, and the others as they did.
    by_cases same : n = m
    · subst same
      rw [found] at at_m
      simp only [if_true, Option.map_eq_map, Option.map_some, Option.some.injEq] at at_m
      subst at_m
      exact placed
    · simp only [same, if_false, id_map'] at at_m
      obtain ⟨phase, previous, scheduled, standing⟩ := h.placed m q at_m
      refine ⟨phase, previous, scheduled, ?_⟩
      rw [others m _ (Ne.symm same), others m _ (Ne.symm same)]
      exact standing
  · rw [last, length, h.last]
  · intro m b long
    rw [length] at long
    rw [others m b (by omega), h.beyond m b long]
  · rw [length]
    exact h.over_le
  · rw [idle, h.idle]

/-- What is known of a page whose next round, or a later one, has its turn. -/
theorem of_turn {j : Job} (h : Chain e d (s.push j)) (about : j.about? = some (n, false)) :
    ∃ r, s.rounds[n]? = some r ∧ Phase.order[n]? = some r.phase ∧ r.previous = n.ppred ∧
      r.scheduled = true ∧ s.jobs.count (n, false) = 0 ∧ s.jobs.count (n, true) = 0 ∧
      (n = d ∧ (r.stand = .queued ∨ r.stand = .waiting) ∨ d < n ∧ r.stand = .queued) := by
  have turns : (s.push j).jobs.count (n, false) = s.jobs.count (n, false) + 1 := count_push_self about s
  have answers : (s.push j).jobs.count (n, true) = s.jobs.count (n, true) :=
    count_push_of_ne (by simp [about]) s
  obtain ⟨r, found, phase, previous, scheduled, standing⟩ :=
    h.exists_of_count (n := n) (b := false) (by rw [turns]; exact Nat.succ_ne_zero _)
  rw [turns, answers] at standing
  obtain ⟨one, none, place⟩ := standing.of_turn (Nat.succ_ne_zero _)
  exact ⟨r, found, phase, previous, scheduled, Nat.succ.inj one, none, place⟩

/-- What is known of a page whose round has its answer. -/
theorem of_answer {j : Job} (h : Chain e d (s.push j)) (about : j.about? = some (n, true)) :
    n = d ∧ e = d ∧ ∃ r, s.rounds[d]? = some r ∧ Phase.order[d]? = some r.phase ∧ r.previous = d.ppred ∧
      r.scheduled = true ∧ s.jobs.count (d, false) = 0 ∧ s.jobs.count (d, true) = 0 := by
  have answers : (s.push j).jobs.count (n, true) = s.jobs.count (n, true) + 1 := count_push_self about s
  have turns : (s.push j).jobs.count (n, false) = s.jobs.count (n, false) :=
    count_push_of_ne (by simp [about]) s
  obtain ⟨r, found, phase, previous, scheduled, standing⟩ :=
    h.exists_of_count (n := n) (b := true) (by rw [answers]; exact Nat.succ_ne_zero _)
  rw [answers, turns] at standing
  obtain ⟨rfl, well, -, none, one⟩ := standing.of_answer (Nat.succ_ne_zero _)
  exact ⟨rfl, well, r, found, phase, previous, scheduled, none, Nat.succ.inj one⟩

/-- What is known of the round that is next, when its turn or its answer is taken. -/
theorem of_next {j : Job} {b : Bool} (h : Chain e d (s.push j)) (about : j.about? = some (d, b)) :
    (∃ r, s.rounds[d]? = some r ∧ Phase.order[d]? = some r.phase ∧ r.previous = d.ppred ∧ r.scheduled = true) ∧
      (∀ b, s.jobs.count (d, b) = 0) ∧ (b = true → e = d) := by
  cases b with
  | false =>
    obtain ⟨r, found, phase, previous, scheduled, noTurn, noAnswer, -⟩ := h.of_turn about
    exact ⟨⟨r, found, phase, previous, scheduled⟩, Bool.forall_bool.mpr ⟨noTurn, noAnswer⟩, nofun⟩
  | true =>
    obtain ⟨-, well, r, found, phase, previous, scheduled, noTurn, noAnswer⟩ := h.of_answer about
    exact ⟨⟨r, found, phase, previous, scheduled⟩, Bool.forall_bool.mpr ⟨noTurn, noAnswer⟩, fun _ => well⟩

end Chain

/-! ## The end of a round -/

theorem foldl_push (ms : List Nat) (s : Session σ) :
    ms.foldl (fun s m => s.push (.round m)) s = { s with queue := s.queue ++ ms.map .round } := by
  induction ms generalizing s with
  | nil =>
    rw [List.map_nil, List.append_nil]
    rfl
  | cons m rest ih =>
    rw [List.foldl_cons, ih, List.map_cons]
    simp only [push, List.append_assoc, List.singleton_append]

theorem finish_eq {r : Round} (found : s.rounds[n]? = some r) (scheduled : r.scheduled = true) (stand : Stand) :
    s.finish n stand = { s with
      idle := s.idle || decide (r.phase = .idle)
      rounds := s.rounds.modify n fun r => { r with stand }
      queue := s.queue ++ (if r.phase = .idle then [.wake] else []) ++
        ((s.setStand n stand).waitingFor n).map .round } := by
  obtain ⟨phase, previous, yields, _, _⟩ := r
  simp only at scheduled
  subst scheduled
  have at_n : s.round? n = some _ := found
  simp only [finish, at_n, foldl_push]
  cases phase <;> simp [setStand, setRound, push, waitingFor, round?]

theorem mem_waitingFor {m : Nat} :
    m ∈ s.waitingFor n ↔ ∃ r, s.rounds[m]? = some r ∧ r.previous = some n ∧ r.stand = .waiting := by
  rw [waitingFor, List.mem_filter, List.mem_range, round?]
  constructor
  · rintro ⟨_, waits⟩
    split at waits
    · next found => exact ⟨_, found, by simpa using waits, rfl⟩
    · cases waits
  · rintro ⟨⟨phase, previous, yields, scheduled, stand⟩, found, rfl, rfl⟩
    exact ⟨(List.getElem?_eq_some_iff.mp found).1, by rw [found]; simp⟩

/-- Who waits for a round that just ended: a round that has its place behind it, and waits. -/
theorem mem_waitingFor_over {r : Round} (found : s.rounds[n]? = some r) {stand : Stand} (past : stand.isOver = true)
    {m : Nat} : m ∈ (s.setStand n stand).waitingFor n ↔
      m ≠ n ∧ ∃ q, s.rounds[m]? = some q ∧ q.previous = some n ∧ q.stand = .waiting := by
  have apart : stand ≠ .waiting := by
    rintro rfl
    cases past
  rw [mem_waitingFor, setStand, setRound, List.getElem?_modify]
  by_cases same : n = m
  · subst same
    simp [found, apart]
  · simp only [same, if_false, id_map', ne_eq, Ne.symm same, not_false_eq_true, true_and]

theorem jobs_finish {r : Round} (found : s.rounds[n]? = some r) (scheduled : r.scheduled = true) (stand : Stand) :
    (s.finish n stand).jobs = s.jobs ++ ((s.setStand n stand).waitingFor n).map (·, false) := by
  have quiet : (if r.phase = .idle then [Job.wake] else []).filterMap Job.about? = [] := by
    split <;> rfl
  have turns (ms : List Nat) : (ms.map Job.round).filterMap Job.about? = ms.map (·, false) := by
    rw [List.filterMap_map]
    exact congrFun (List.filterMap_eq_map (f := fun m => (m, false))) ms
  rw [finish_eq found scheduled, jobs]
  simp only [List.filterMap_append, quiet, List.append_nil, turns]
  rfl

theorem count_finish_turn {r : Round} (found : s.rounds[n]? = some r) (scheduled : r.scheduled = true)
    (stand : Stand) (m : Nat) :
    (s.finish n stand).jobs.count (m, false) =
      s.jobs.count (m, false) + if m ∈ (s.setStand n stand).waitingFor n then 1 else 0 := by
  have once : ((s.setStand n stand).waitingFor n).Nodup := List.Nodup.filter _ List.nodup_range
  have apart : Function.Injective fun m : Nat => (m, false) := fun _ _ same => congrArg Prod.fst same
  rw [jobs_finish found scheduled, List.count_append, List.count_map_of_injective _ _ apart m, once.count]

theorem count_finish_answer {r : Round} (found : s.rounds[n]? = some r) (scheduled : r.scheduled = true)
    (stand : Stand) (m : Nat) : (s.finish n stand).jobs.count (m, true) = s.jobs.count (m, true) := by
  have none : (m, true) ∉ ((s.setStand n stand).waitingFor n).map (·, false) := by
    rw [List.mem_map]
    rintro ⟨_, -, same⟩
    exact Bool.false_ne_true (congrArg Prod.snd same)
  rw [jobs_finish found scheduled, List.count_append, List.count_eq_zero_of_not_mem none, Nat.add_zero]

namespace Chain

theorem count_apart {j : Job} {b : Bool} (about : j.about? = some (d, b)) {m : Nat} (c : Bool) (other : m ≠ d) :
    (s.push j).jobs.count (m, c) = s.jobs.count (m, c) :=
  count_push_of_ne (by simp [about, Ne.symm other]) s

/-- Any round but the one that ends is placed as before, but the one behind is woken if it waited. -/
theorem placed_other {j : Job} {b : Bool} (h : Chain e d (s.push j)) (about : j.about? = some (d, b))
    (more : e' = e ∨ e = d ∧ e' = d + 1) {stand : Stand} (past : stand.isOver = true) {m : Nat} {q : Round}
    (at_m : s.rounds[m]? = some q) (other : m ≠ d) : Placed e' (d + 1) m (s.finish d stand).jobs q := by
  obtain ⟨⟨r, found, -, -, scheduled⟩, -⟩ := h.of_next about
  obtain ⟨phase, previous, scheduled', standing⟩ := h.placed m q at_m
  rw [count_apart about _ other, count_apart about _ other] at standing
  refine ⟨phase, previous, scheduled', ?_⟩
  rw [count_finish_turn found scheduled, count_finish_answer found scheduled]
  refine standing.advance more other ?_ ?_
  · rintro rfl waits
    exact if_pos ((mem_waitingFor_over found past).mpr ⟨other, q, at_m, previous, waits⟩)
  · intro not
    refine if_neg fun woken => not ?_
    obtain ⟨-, q', at_m', previous', waits⟩ := (mem_waitingFor_over found past).mp woken
    obtain rfl : q' = q := Option.some.inj (at_m'.symm.trans at_m)
    rw [previous, Nat.ppred_eq_some] at previous'
    exact ⟨previous'.symm, waits⟩

theorem no_answer_after (h : Chain e d s) (later : d < n) : s.jobs.count (n, true) = 0 := by
  by_contra some
  obtain ⟨q, -, placed⟩ := h.exists_of_count some
  exact Nat.ne_of_gt later (placed.standing.of_answer some).1

theorem idle_iff_last (at_d : Phase.order[d]? = some p) :
    (decide (d = Phase.order.length) || decide (p = .idle)) = decide (d + 1 = Phase.order.length) := by
  match d, at_d with
  | 0, at_d => rw [← (Option.some.inj at_d : Phase.start = p)]; rfl
  | 1, at_d => rw [← (Option.some.inj at_d : Phase.parsed = p)]; rfl
  | 2, at_d => rw [← (Option.some.inj at_d : Phase.idle = p)]; rfl

/-- The round that is next ends: well, if all before it did, or not. One that fails asked, unless one before it failed
too. -/
theorem finish {j : Job} {b : Bool} (h : Chain e d (s.push j)) (about : j.about? = some (d, b))
    (more : e' = e ∨ e = d ∧ e' = d + 1) (asked : b = true ∨ e < d) {stand : Stand} (past : stand.isOver = true)
    (ends : Standing e' (d + 1) d stand 0 0) : Chain e' (d + 1) (s.finish d stand) := by
  obtain ⟨⟨r, found, phase, previous, scheduled⟩, none, well⟩ := h.of_next about
  have inside : d < s.rounds.length := (List.getElem?_eq_some_iff.mp found).1
  have rounds : (s.finish d stand).rounds = s.rounds.modify d fun r => { r with stand } := by
    rw [finish_eq found scheduled]
  have length : (s.finish d stand).rounds.length = s.rounds.length := by
    rw [rounds, List.length_modify]
  have within := h.well_le
  refine ⟨?_, ?_, ?_, by omega, ?_, ?_, ?_⟩
  · intro m q at_m
    rw [rounds, List.getElem?_modify] at at_m
    by_cases same : d = m
    · subst same
      rw [found] at at_m
      simp only [if_true, Option.map_eq_map, Option.map_some, Option.some.injEq] at at_m
      subst at_m
      refine ⟨phase, previous, scheduled, ?_⟩
      rw [count_finish_turn found scheduled, count_finish_answer found scheduled, none, none,
        if_neg (fun waits => ((mem_waitingFor_over found past).mp waits).1 rfl)]
      exact ends
    · simp only [same, if_false, id_map'] at at_m
      exact h.placed_other about more past at_m (Ne.symm same)
  · rw [length, finish_eq found scheduled]
    exact h.last
  · intro m c long
    rw [length] at long
    have quiet : s.jobs.count (m, c) = 0 := by
      rw [← count_apart about c (by omega)]
      exact h.beyond m c long
    cases c with
    | true => rw [count_finish_answer found scheduled, quiet]
    | false =>
      -- There is no such round, so none that waits.
      rw [count_finish_turn found scheduled, quiet, if_neg]
      intro waits
      obtain ⟨-, q, at_m, -⟩ := (mem_waitingFor_over found past).mp waits
      rw [List.getElem?_eq_none long] at at_m
      cases at_m
  · rw [length]
    exact inside
  · have before : s.requested = Phase.order.take (min (e + 1) (d + (s.push j).jobs.count (d, true))) := h.requested
    have early : s.jobs.count (d + 1, true) = 0 := by
      rw [← count_apart about true (Nat.succ_ne_self d)]
      exact h.no_answer_after (Nat.lt_succ_self d)
    rw [count_finish_answer found scheduled, early, finish_eq found scheduled, before]
    congr 1
    cases b with
    | true =>
      rw [count_push_self about, none]
      have := well rfl
      omega
    | false =>
      have fewer : e < d := asked.resolve_left Bool.false_ne_true
      rw [count_push_of_ne (by simp [about]), none]
      omega
  · have before : s.idle = decide (d = Phase.order.length) := h.idle
    rw [finish_eq found scheduled, before]
    exact idle_iff_last phase

end Chain

/-! ## What a round does -/

/-- What the scripts of a page left: outcomes, the page itself, stored values, and the reports under way. -/
def effects (s : Session σ) :
    List Outcome × Page.Document Phase × Storage × Machine.Memory × List Outcome :=
  (s.outcomes, s.document, s.storage, s.memory, s.reports)

theorem effects_finish {r : Round} (found : s.rounds[n]? = some r) (scheduled : r.scheduled = true)
    (stand : Stand) : (s.finish n stand).effects = s.effects := by
  have quiet : (if r.phase = .idle then [Job.wake] else []).filterMap Job.report? = [] := by
    split <;> rfl
  have turns (ms : List Nat) : (ms.map Job.round).filterMap Job.report? = [] := by
    rw [List.filterMap_map, List.filterMap_eq_nil_iff]
    exact fun _ _ => rfl
  rw [finish_eq found scheduled, effects, reports]
  simp only [List.filterMap_append, quiet, turns, List.append_nil]
  rfl

theorem account_finish {r : Round} (found : s.rounds[n]? = some r) (scheduled : r.scheduled = true)
    (stand : Stand) : (s.finish n stand).account = s.account := by
  have reports : (s.finish n stand).reports = s.reports := congrArg (·.2.2.2.2) (effects_finish found scheduled stand)
  rw [account, reports, finish_eq found scheduled]
  rfl

/-- Two pages that differ in nothing but their rounds, the phases asked for, and jobs that take no report. -/
structure Beside (s t : Session σ) : Prop where
  rest : ∃ rounds requested queue, t = { s with rounds, requested, queue }
  reports : t.reports = s.reports

namespace Beside

theorem refl (s : Session σ) : s.Beside s := ⟨⟨_, _, _, rfl⟩, rfl⟩

theorem trans {u : Session σ} (h : s.Beside t) (h' : t.Beside u) : s.Beside u := by
  obtain ⟨_, _, _, rfl⟩ := h.rest
  obtain ⟨_, _, _, rfl⟩ := h'.rest
  exact ⟨⟨_, _, _, rfl⟩, h'.reports.trans h.reports⟩

theorem push (h : s.Beside t) {j : Job} (quiet : j.report? = none) : s.Beside (t.push j) := by
  obtain ⟨_, _, _, rfl⟩ := h.rest
  refine ⟨⟨_, _, _, rfl⟩, ?_⟩
  rw [← h.reports, Session.reports, Session.push, List.filterMap_append, List.filterMap_cons_none quiet]
  exact List.append_nil _

theorem setRound (h : s.Beside t) (n : Nat) (f : Round → Round) : s.Beside (t.setRound n f) := by
  obtain ⟨_, _, _, rfl⟩ := h.rest
  exact ⟨⟨_, _, _, rfl⟩, h.reports⟩

theorem effects (h : s.Beside t) : t.effects = s.effects := by
  obtain ⟨_, _, _, rfl⟩ := h.rest
  rw [Session.effects, h.reports]
  rfl

theorem account (h : s.Beside t) : t.account = s.account := by
  obtain ⟨_, _, _, rfl⟩ := h.rest
  rw [Session.account, h.reports]
  rfl

end Beside

/-- A page on which the batch of a phase is run: the batch was answered, and its first script is next. -/
def Serves (set : Setting σ) (p : Phase) (scripts : List Script) (s u : Session σ) : Prop :=
  ∃ log engine, set.bridge.select s.document.url p s.engine = (.ok scripts, log, engine) ∧
    Beside { s with engine, log := s.log ++ log } u

/-- How a round ends well. -/
inductive Ended (set : Setting σ) (p : Phase) (s t : Session σ) : Prop
  /-- There was no batch, and nothing came of it. -/
  | refused {f : Fault} {log : Log} {engine : σ} :
      set.bridge.select s.document.url p s.engine = (.error f, log, engine) → t.effects = s.effects →
      t.account = { s.account with engine } → Ended set p s t
  /-- The batch ran to its end: each script left its outcome. -/
  | ran {scripts : List Script} {u : Session σ} {os : List Outcome} :
      s.Serves set p scripts u → (u.runBatch set later scripts).1 = .ok os → Adds os os u.account t.account →
      Ended set p s t

/-- The batch of a round breaks off: the outcomes that were made are lost. -/
inductive Broken (set : Setting σ) (p : Phase) (s t : Session σ) (lost : List Outcome) : Prop
  | intro {scripts before : List Script} {u : Session σ} {f : Fault} :
      s.Serves set p scripts u → u.BreaksOff set later scripts before f → u.made set later scripts = lost →
      Adds lost [] u.account t.account → Broken set p s t lost

/-- How a round ends when `e` rounds of the `d` before it ended well, and how many did then. -/
inductive Ending (set : Setting σ) (p : Phase) (s t : Session σ) (e d : Nat) : Nat → Prop
  | well : e = d → Ended set p s t → Ending set p s t e d (d + 1)
  | broken {lost : List Outcome} : e = d → Broken set p s t lost → Ending set p s t e d e
  /-- A round before it failed: it does not ask, and nothing comes of it. -/
  | dropped : e < d → t.effects = s.effects → t.account = s.account → Ending set p s t e d e

theorem Serves.of_beside {scripts : List Script} {u v : Session σ} (h : u.Serves set p scripts v) (same : s.Beside u) :
    s.Serves set p scripts v := by
  obtain ⟨log, engine, answered, beside⟩ := h
  obtain ⟨⟨_, _, _, rfl⟩, reports⟩ := same
  exact ⟨log, engine, answered, Beside.trans ⟨⟨_, _, _, rfl⟩, reports⟩ beside⟩

theorem Ended.of_beside {u : Session σ} (h : Ended set p u t) (same : s.Beside u) : Ended set p s t := by
  cases h with
  | refused none quiet kept =>
    rw [same.effects] at quiet
    rw [same.account] at kept
    obtain ⟨_, _, _, rfl⟩ := same.rest
    exact .refused none quiet kept
  | ran serves ended adds => exact .ran (serves.of_beside same) ended adds

theorem Broken.of_beside {lost : List Outcome} {u : Session σ} (h : Broken set p u t lost) (same : s.Beside u) :
    Broken set p s t lost := by
  obtain ⟨serves, broken, made, adds⟩ := h
  exact ⟨serves.of_beside same, broken, made, adds⟩

theorem Ending.of_beside {u : Session σ} (h : Ending set p u t e d e') (same : s.Beside u) :
    Ending set p s t e d e' := by
  cases h with
  | well first ended => exact .well first (ended.of_beside same)
  | broken first broken => exact .broken first (broken.of_beside same)
  | dropped fewer quiet kept => exact .dropped fewer (quiet.trans same.effects) (kept.trans same.account)

/-- A page whose round asked for its batch. -/
def asking (n : Nat) (p : Phase) (s : Session σ) : Session σ :=
  { s with requested := s.requested ++ [p] }.setStand n .asked

theorem beside_asking (n : Nat) (p : Phase) (s : Session σ) : s.Beside (s.asking n p) := ⟨⟨_, _, _, rfl⟩, rfl⟩

theorem ask_eq : s.ask set n p = match set.bridge.laps s.document.url with
    | 0 => (s.asking n p).runRound set n p
    | laps + 1 => (s.asking n p).push (.answer n laps) := rfl

theorem requested_finish (stand : Stand) (s : Session σ) : (s.finish n stand).requested = s.requested := by
  simp only [finish, foldl_push]
  split
  · rfl
  · rfl

/-- What a round does with its batch, up to its end. -/
inductive RunsRound (set : Setting σ) (n : Nat) (p : Phase) (s : Session σ) : Session σ → Prop
  | refused {f : Fault} {log : Log} {engine : σ} {u : Session σ} :
      set.bridge.select s.document.url p s.engine = (.error f, log, engine) → u.course = s.course →
      u.effects = s.effects → u.account = { s.account with engine } → RunsRound set n p s (u.finish n (.done []))
  | ran {scripts : List Script} {os : List Outcome} {u t : Session σ} :
      s.Serves set p scripts u → (u.runBatch set later scripts).1 = .ok os →
      t.course = { s.course with outcomes := s.outcomes ++ os } → Adds os os u.account t.account →
      RunsRound set n p s (t.finish n (.done os))
  | broken {scripts before : List Script} {f : Fault} {u t : Session σ} :
      s.Serves set p scripts u → u.BreaksOff set later scripts before f → t.course = s.course →
      Adds (u.made set later scripts) [] u.account t.account → RunsRound set n p s (t.finish n (.failed f))

theorem runsRound (set : Setting σ) (n : Nat) (p : Phase) (s : Session σ) :
    RunsRound set n p s (s.runRound set n p) := by
  unfold runRound
  split
  · next f log engine refused =>
    let u : Session σ := { s with engine, log := s.log ++ log }
    exact .refused (u := u.write (u.noBatch p f)) refused rfl rfl rfl
  · next scripts log engine answered =>
    let u : Session σ := { s with engine, log := s.log ++ log }
    have serves : s.Serves set p scripts u := ⟨log, engine, answered, .refl _⟩
    have course : (u.runBatch set later scripts).2.course = s.course := course_runBatch set scripts u
    have adds (left : List Outcome) := adds_runBatch set scripts left u
    split
    · next f t ran =>
      have ran : u.runBatch set later scripts = (.error f, t) := ran
      obtain ⟨before, broken⟩ := (runBatch_error_iff apart_later).mp (congrArg Prod.fst ran)
      have kept := adds []
      rw [ran] at course
      rw [List.append_nil, ran] at kept
      exact .broken serves broken course kept
    · next os t ran =>
      have ran : u.runBatch set later scripts = (.ok os, t) := ran
      have ended : (u.runBatch set later scripts).1 = .ok os := congrArg Prod.fst ran
      have grown := adds os
      rw [ran] at course
      rw [(runBatch_ok ended).1, ran] at grown
      refine .ran (t := { t with outcomes := t.outcomes ++ os }) serves ended ?_ grown
      rw [← course, ← show t.outcomes = s.outcomes from congrArg Course.outcomes course]
      rfl

theorem requested_runRound (set : Setting σ) (n : Nat) (p : Phase) (s : Session σ) :
    (s.runRound set n p).requested = s.requested := by
  have runs := runsRound set n p s
  generalize s.runRound set n p = t at runs ⊢
  cases runs with
  | refused _ course | ran _ _ course | broken _ _ course =>
    rw [requested_finish]
    exact congrArg Course.requested course

theorem requested_ask (set : Setting σ) (n : Nat) (p : Phase) (s : Session σ) :
    (s.ask set n p).requested = s.requested ++ [p] := by
  rw [ask_eq]
  split
  · exact requested_runRound set n p (s.asking n p)
  · rfl

namespace Chain

theorem runRound (set : Setting σ) (p : Phase) {laps : Nat} (h : Chain e d (s.push (.answer d laps))) :
    ∃ e', Chain e' (d + 1) (s.runRound set d p) ∧ Ending set p s (s.runRound set d p) e d e' := by
  obtain ⟨-, rfl, r, found, -, -, scheduled, -⟩ := h.of_answer rfl
  -- Whatever the batch did, the thread and the jobs are as they were when the answer came.
  have answered {t : Session σ} (os : List Outcome) (same : t.course = { s.course with outcomes := os }) :
      Chain e e (t.push (.answer e laps)) ∧ t.rounds[e]? = some r := by
    have jobs : t.jobs = s.jobs := congrArg Course.jobs same
    refine ⟨h.congr (congrArg (fun c => (c.rounds, c.last, c.requested, c.idle)) same) (List.Perm.of_eq ?_), ?_⟩
    · rw [jobs_push, jobs_push, jobs]
    · rw [show t.rounds = s.rounds from congrArg Course.rounds same]
      exact found
  have runs := runsRound set e p s
  generalize s.runRound set e p = t at runs ⊢
  cases runs with
  | refused none course quiet kept =>
    obtain ⟨chain, found⟩ := answered s.outcomes course
    refine ⟨e + 1, chain.finish rfl (.inr ⟨rfl, rfl⟩) (.inl rfl) rfl (.ended [] (Nat.lt_succ_self e)), ?_⟩
    exact .well rfl (.refused none ((effects_finish found scheduled _).trans quiet)
      ((account_finish found scheduled _).trans kept))
  | ran serves ended course adds =>
    obtain ⟨chain, found⟩ := answered _ course
    refine ⟨e + 1, chain.finish rfl (.inr ⟨rfl, rfl⟩) (.inl rfl) rfl (.ended _ (Nat.lt_succ_self e)), ?_⟩
    refine .well rfl (.ran serves ended ?_)
    rw [account_finish found scheduled]
    exact adds
  | broken serves broken course adds =>
    obtain ⟨chain, found⟩ := answered s.outcomes course
    refine ⟨e, chain.finish rfl (.inl rfl) (.inl rfl) rfl (.failed _ (Nat.le_refl e) (Nat.lt_succ_self e)), ?_⟩
    refine .broken rfl ⟨serves, broken, rfl, ?_⟩
    rw [account_finish found scheduled]
    exact adds

/-- The phases that were asked for before the turn of the next round. -/
theorem requested_before (h : Chain d d (s.push (.round d))) : s.requested = Phase.order.take d := by
  obtain ⟨-, -, -, -, -, -, noAnswer, -⟩ := h.of_turn rfl
  rw [show s.requested = _ from h.requested, count_push_of_ne (by simp [Job.about?]), noAnswer]
  congr 1
  omega

theorem asking (h : Chain d d (s.push (.round d))) (at_d : Phase.order[d]? = some p) (laps : Nat) :
    Chain d d ((s.asking d p).push (.answer d laps)) := by
  obtain ⟨r, found, phase, previous, scheduled, noTurn, noAnswer, -⟩ := h.of_turn rfl
  have turns : ((s.asking d p).push (.answer d laps)).jobs.count (d, false) = 0 :=
    (count_push_of_ne (by simp [Job.about?]) _).trans noTurn
  have answers : ((s.asking d p).push (.answer d laps)).jobs.count (d, true) = 1 :=
    (count_push_self rfl _).trans (congrArg (· + 1) noAnswer)
  refine h.update (n := d) (f := fun r => { r with stand := .asked }) found rfl rfl rfl ?_ ?_ ?_
  · intro m b other
    rw [count_push_of_ne (by simp [Job.about?, Ne.symm other]), count_push_of_ne (by simp [Job.about?, Ne.symm other])]
    rfl
  · refine ⟨phase, previous, scheduled, ?_⟩
    rw [turns, answers]
    exact .asked rfl rfl
  · rw [answers, Nat.min_self, List.take_add_one, at_d, ← h.requested_before]
    rfl

theorem wait (h : Chain e d (s.push (.round n))) (later : d < n) : Chain e d (s.setStand n .waiting) := by
  obtain ⟨r, found, phase, previous, scheduled, noTurn, noAnswer, -⟩ := h.of_turn rfl
  have same {m : Nat} {b : Bool} (other : (n, false) ≠ (m, b)) :
      (s.push (.round n)).jobs.count (m, b) = s.jobs.count (m, b) := by
    refine count_push_of_ne ?_ s
    exact fun eq => other (Option.some.inj eq)
  refine h.update (n := n) (f := fun r => { r with stand := .waiting }) found rfl rfl rfl ?_ ?_ ?_
  · intro m b other
    exact (same fun eq => other (congrArg Prod.fst eq).symm).symm
  · refine ⟨phase, previous, scheduled, ?_⟩
    change Standing e d n .waiting (s.jobs.count (n, false)) (s.jobs.count (n, true))
    rw [noTurn, noAnswer]
    exact .waiting later
  · have before := h.requested
    rw [same (fun eq => Bool.false_ne_true (congrArg Prod.snd eq))] at before
    exact before

theorem pass (h : Chain e d (s.push (.round n))) :
    Chain e d ((s.setRound n fun r => { r with yields := false }).push (.round n)) := by
  obtain ⟨r, found, -⟩ := h.of_turn rfl
  obtain ⟨phase, previous, scheduled, standing⟩ := h.placed n r found
  exact h.update (n := n) (f := fun r => { r with yields := false }) found rfl rfl rfl (fun _ _ _ => rfl)
    ⟨phase, previous, scheduled, standing⟩ h.requested

/-- The round before the next one ended well, or none did of those before it. -/
theorem over_before (h : Chain e d s) {q : Round} (found : d.ppred.bind s.round? = some q) :
    e = d ∧ (∃ outcomes, q.stand = .done outcomes) ∨ e < d ∧ ∃ f, q.stand = .failed f := by
  cases d with
  | zero => cases found
  | succ k =>
    have within := h.well_le
    rcases (h.placed k q found).standing.of_lt (Nat.lt_succ_self k) with ⟨lt, ended⟩ | ⟨le, failed⟩
    · exact .inl ⟨by omega, ended⟩
    · exact .inr ⟨by omega, failed⟩

theorem open_before (h : Chain e d s) {r : Round} (found : s.rounds[n]? = some r) (later : d < n) :
    ∃ q, n.ppred.bind s.round? = some q ∧ (q.stand = .queued ∨ q.stand = .waiting ∨ q.stand = .asked) := by
  cases n with
  | zero => cases later
  | succ k =>
    have inside : k < s.rounds.length := Nat.lt_of_succ_lt (List.getElem?_eq_some_iff.mp found).1
    have there : s.rounds[k]? = some s.rounds[k] := List.getElem?_eq_getElem inside
    exact ⟨_, there, (h.placed k _ there).standing.of_le h.well_le (Nat.le_of_lt_succ later)⟩

/-- The next round asks, unless the round before it failed: then it fails in the same way. -/
theorem advance_next (set : Setting σ) (h : Chain e d (s.push (.round d))) {r : Round} (found : s.rounds[d]? = some r)
    (now : r.yields = false) :
    e = d ∧ s.advance set d = s.ask set d r.phase ∨ e < d ∧ ∃ f, s.advance set d = s.finish d (.failed f) := by
  have at_d : s.round? d = some r := found
  simp only [Session.advance, at_d, (h.placed d r found).previous, now, Bool.false_eq_true, if_false]
  cases before : d.ppred.bind s.round? with
  | none =>
    have within := h.well_le
    have first : d = 0 := by
      cases d with
      | zero => rfl
      | succ k =>
        have inside : k < s.rounds.length := Nat.lt_of_succ_lt (List.getElem?_eq_some_iff.mp found).1
        have there : s.rounds[k]? = none := before
        exact absurd (List.getElem?_eq_none_iff.mp there) (Nat.not_le_of_lt inside)
    exact .inl ⟨by omega, rfl⟩
  | some q =>
    have before : d.ppred.bind (s.push (.round d)).round? = some q := before
    obtain ⟨_, _, _, _, stand⟩ := q
    rcases h.over_before before with ⟨well, outcomes, ended⟩ | ⟨fewer, f, failed⟩
    · cases ended
      exact .inl ⟨well, rfl⟩
    · cases failed
      exact .inr ⟨fewer, f, rfl⟩

theorem advance_later (set : Setting σ) (h : Chain e d (s.push (.round n))) {r : Round} (found : s.rounds[n]? = some r)
    (now : r.yields = false) (later : d < n) : s.advance set n = s.setStand n .waiting := by
  have at_n : s.round? n = some r := found
  obtain ⟨q, before, still⟩ := h.open_before found later
  have before : n.ppred.bind s.round? = some q := before
  simp only [Session.advance, at_n, (h.placed n r found).previous, now, Bool.false_eq_true, if_false, before]
  obtain ⟨_, _, _, _, stand⟩ := q
  rcases still with rfl | rfl | rfl
  · rfl
  · rfl
  · rfl

/-- What a turn of a round comes to: it passes, the next round asks or fails, or a later one waits. -/
theorem turn_cases (set : Setting σ) (h : Chain e d (s.push (.round n))) :
    ∃ r, s.rounds[n]? = some r ∧ Phase.order[n]? = some r.phase ∧ r.scheduled = true ∧
      (r.yields = true ∧
          s.work set (.round n) = (s.setRound n fun r => { r with yields := false }).push (.round n) ∨
        n = d ∧ (r.stand = .queued ∨ r.stand = .waiting) ∧
          (e = d ∧ s.work set (.round n) = s.ask set n r.phase ∨
            e < d ∧ ∃ f, s.work set (.round n) = s.finish n (.failed f)) ∨
        d < n ∧ r.stand = .queued ∧ s.work set (.round n) = s.setStand n .waiting) := by
  obtain ⟨r, found, phase, -, scheduled, -, -, place⟩ := h.of_turn rfl
  refine ⟨r, found, phase, scheduled, ?_⟩
  cases yields : r.yields with
  | true =>
    refine .inl ⟨rfl, ?_⟩
    have at_n : s.round? n = some r := found
    simp only [Session.work, Session.advance, at_n, yields, if_true]
  | false =>
    -- Only the next round can ask or fail; a later one finds the round before it unfinished.
    rcases place with ⟨rfl, stands⟩ | ⟨later, stands⟩
    · exact .inr (.inl ⟨rfl, stands, h.advance_next set found yields⟩)
    · exact .inr (.inr ⟨later, stands, h.advance_later set found yields later⟩)

/-- A job about a round is done: it moves rounds and jobs only, or it runs the batch of the next round, or that fails. -/
theorem work_cases (set : Setting σ) {j : Job} (h : Chain e d (s.push j)) (about : j.about? ≠ none) :
    (Chain e d (s.work set j) ∧ s.Beside (s.work set j)) ∨
    ∃ b p, j.about? = some (d, b) ∧ Phase.order[d]? = some p ∧
      ((∃ u laps, s.Beside u ∧ Chain e d (u.push (.answer d laps)) ∧ s.work set j = u.runRound set d p) ∨
        e < d ∧ ∃ f, s.work set j = s.finish d (.failed f)) := by
  cases j with
  | round n =>
    obtain ⟨r, -, phase, -, ⟨-, passes⟩ | ⟨rfl, -, ⟨rfl, asks⟩ | ⟨fewer, fails⟩⟩ | ⟨later, -, waits⟩⟩ :=
      h.turn_cases set
    · left
      rw [passes]
      exact ⟨h.pass, ((Beside.refl s).setRound n _).push rfl⟩
    · rw [asks, ask_eq]
      cases set.bridge.laps s.document.url with
      | zero => exact .inr ⟨false, r.phase, rfl, phase, .inl ⟨_, 0, beside_asking e r.phase s, h.asking phase 0, rfl⟩⟩
      | succ laps => exact .inl ⟨h.asking phase laps, (beside_asking e r.phase s).push rfl⟩
    · exact .inr ⟨false, r.phase, rfl, phase, .inr ⟨fewer, fails⟩⟩
    · left
      rw [waits]
      exact ⟨h.wait later, (Beside.refl s).setRound n _⟩
  | answer n laps =>
    cases laps with
    | zero =>
      obtain ⟨rfl, -, r, found, phase, -⟩ := h.of_answer rfl
      have runs : s.work set (.answer n 0) = s.runRound set n r.phase := by
        have at_n : s.round? n = some r := found
        simp only [Session.work, at_n]
      exact .inr ⟨true, r.phase, rfl, phase, .inl ⟨s, 0, .refl s, h, runs⟩⟩
    | succ laps =>
      have same : (s.push (.answer n laps)).jobs = (s.push (.answer n (laps + 1))).jobs := by
        rw [jobs_push, jobs_push]
        rfl
      exact .inl ⟨h.congr rfl (List.Perm.of_eq same), (Beside.refl s).push rfl⟩
  | report | request | wake => exact absurd rfl about

/-- A job is done, whichever of those that wait. -/
theorem work (set : Setting σ) {j : Job} (h : Chain e d (s.push j)) :
    (Chain e d (s.work set j) ∧ (j.about? ≠ none → s.Beside (s.work set j))) ∨
      ∃ b p e', j.about? = some (d, b) ∧ Phase.order[d]? = some p ∧ Chain e' (d + 1) (s.work set j) ∧
        Ending set p s (s.work set j) e d e' := by
  by_cases about : j.about? = none
  · -- A job that is about no round leaves the course, and with it the chain.
    left
    refine ⟨h.of_course ?_, fun other => absurd about other⟩
    rw [course_push about]
    cases j with
    | round | answer => cases about
    | report o => exact course_deliver o s
    | request a details => exact course_perform details s
    | wake => rfl
  · rcases h.work_cases set about with ⟨kept, beside⟩ | ⟨b, p, at_d, phase, ends⟩
    · exact .inl ⟨kept, fun _ => beside⟩
    · right
      rcases ends with ⟨u, laps, beside, chain, runs⟩ | ⟨fewer, f, fails⟩
      · obtain ⟨e', next, ending⟩ := chain.runRound set p
        rw [runs]
        exact ⟨b, p, e', at_d, phase, next, ending.of_beside beside⟩
      · obtain ⟨⟨r, found, -, -, scheduled⟩, -⟩ := h.of_next at_d
        rw [fails]
        refine ⟨b, p, e, at_d, phase, ?_, ?_⟩
        · exact h.finish at_d (.inl rfl) (.inr fewer) rfl (.failed f (Nat.le_of_lt fewer) (Nat.lt_succ_self d))
        · exact .dropped fewer (effects_finish found scheduled _) (account_finish found scheduled _)

/-- A job asks for no batch, unless all rounds that asked before ended well. -/
theorem requested_work (set : Setting σ) {j : Job} (h : Chain e d (s.push j)) :
    (s.work set j).requested = s.requested ∨
      e = d ∧ s.requested = Phase.order.take d ∧ ∃ p, (s.work set j).requested = s.requested ++ [p] := by
  cases j with
  | round n =>
    obtain ⟨r, -, -, -, ⟨-, passes⟩ | ⟨rfl, -, ⟨rfl, asks⟩ | ⟨-, f, fails⟩⟩ | ⟨-, -, waits⟩⟩ := h.turn_cases set
    · left
      rw [passes]
      rfl
    · right
      refine ⟨rfl, h.requested_before, r.phase, ?_⟩
      rw [asks, requested_ask]
    · left
      rw [fails, requested_finish]
    · left
      rw [waits]
      rfl
  | answer n laps =>
    left
    cases laps with
    | zero =>
      simp only [Session.work]
      split
      · exact requested_runRound set _ _ s
      · rfl
    | succ laps => rfl
  | report o => exact .inl (congrArg Course.requested (course_deliver o s))
  | request a details => exact .inl (congrArg Course.requested (course_perform details s))
  | wake => exact .inl rfl

end Chain

end Userscript.Session
