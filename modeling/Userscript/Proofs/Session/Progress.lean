import Mathlib.Algebra.GroupWithZero.Nat
import Mathlib.Data.List.TakeWhile
import Userscript.Proofs.Session.Accounts
import Userscript.Proofs.Session.Phases

/-!
# Userscript.Proofs.Session.Progress

Rounds and reports come to an end.

Scripts put off requests, and what is called with the answers may put off more, so there may always be a job that
waits. But the oldest job goes first: each job about a round brings the rounds nearer to their end, each report is
delivered, and requests hold up neither.

* `left`: the turns and laps that the rounds of a page have before them at most;
* `left_work` and `left_other`: a job about a round makes it less, and another one leaves it;
* `Orderly.rests_after`: after some jobs no round and no report waits, and so it stays (`Rests.turn`).
-/

namespace Userscript.Session

variable {σ : Type} {set : Setting σ} {s t : Session σ} {e d n laps : Nat} {p : Phase} {a : Author}

/-! ## What is left to do -/

/-- The turns and laps that a round has before it at most, its answer in the queue apart. -/
def Round.left (laps : Nat) (r : Round) : Nat :=
  r.yields.toNat + match r.stand with
    | .queued => laps + 2
    | .waiting => laps + 1
    | _ => 0

/-- The laps that an answer in the queue has before it. -/
def Job.left : Job → Nat
  | .answer _ laps => laps + 1
  | _ => 0

/-- The turns and laps that the rounds of a page have before them at most. -/
def left (laps : Nat) (s : Session σ) : Nat := (s.rounds.map (Round.left laps)).sum + (s.queue.map Job.left).sum

theorem sum_modify {α : Type} (f : α → Nat) (g : α → α) {l : List α} {x : α} (at_n : l[n]? = some x) :
    ((l.modify n g).map f).sum + f x = (l.map f).sum + f (g x) := by
  induction l generalizing n with
  | nil => cases at_n
  | cons y rest ih =>
    cases n with
    | zero =>
      cases at_n
      simp only [List.modify_zero_cons, List.map_cons, List.sum_cons]
      omega
    | succ n =>
      have step := ih at_n
      simp only [List.modify_succ_cons, List.map_cons, List.sum_cons]
      omega

theorem sum_quiet {jobs : List Job} (quiet : ∀ j ∈ jobs, j.left = 0) : (jobs.map Job.left).sum = 0 := by
  induction jobs with
  | nil => rfl
  | cons j rest ih =>
    rw [List.forall_mem_cons] at quiet
    rw [List.map_cons, List.sum_cons, quiet.1, ih quiet.2]

theorem left_push (laps : Nat) (j : Job) (s : Session σ) : (s.push j).left laps = s.left laps + j.left := by
  rw [left, push, List.map_append, List.sum_append, ← Nat.add_assoc]
  rfl

theorem left_setRound (laps : Nat) {r : Round} (found : s.rounds[n]? = some r) (f : Round → Round) :
    (s.setRound n f).left laps + r.left laps = s.left laps + (f r).left laps := by
  have moved := sum_modify (Round.left laps) f found
  simp only [left, setRound]
  omega

/-- Nobody's turn counts before it comes, so ending a round leaves only what was left of the others. -/
theorem left_finish {r : Round} (found : s.rounds[n]? = some r) (scheduled : r.scheduled = true) {stand : Stand}
    (past : stand.isOver = true) :
    (s.finish n stand).left laps + r.left laps = s.left laps + r.yields.toNat := by
  have moved := sum_modify (Round.left laps) (fun r => { r with stand }) found
  have ended : Round.left laps { r with stand } = r.yields.toNat := by
    cases stand with
    | done | failed => rfl
    | queued | waiting | asked => cases past
  have wakes : ((if r.phase = .idle then [Job.wake] else []).map Job.left).sum = 0 := by split <;> rfl
  have turns (ms : List Nat) : ((ms.map Job.round).map Job.left).sum = 0 := by
    refine sum_quiet fun j mem => ?_
    obtain ⟨m, -, rfl⟩ := List.mem_map.mp mem
    rfl
  rw [ended] at moved
  rw [finish_eq found scheduled]
  simp only [left, List.map_append, List.sum_append, wakes, turns]
  omega

/-! ## Scripts -/

theorem Confined.left (h : Confined a s t) : t.left laps = s.left laps := by
  obtain ⟨requests, queued⟩ := h.queue
  have rounds : t.rounds = s.rounds := by rw [h.rest]
  have quiet : ((requests.map (Job.request a)).map Job.left).sum = 0 := by
    refine sum_quiet fun j mem => ?_
    obtain ⟨d, -, rfl⟩ := List.mem_map.mp mem
    rfl
  rw [Session.left, rounds, queued, List.map_append, List.sum_append, quiet]
  rfl

theorem left_runScript (set : Setting σ) (script : Script) (s : Session σ) :
    (s.runScript set later script).2.left laps = s.left laps :=
  runScript_later_keeps Confined.left (fun _ error _ => by cases error <;> rfl)
    (fun o t => left_push laps (.report o) t) set script s

theorem left_runRound (laps : Nat) (set : Setting σ) (p : Phase) {r : Round} (found : s.rounds[n]? = some r)
    (scheduled : r.scheduled = true) :
    (s.runRound set n p).left laps + r.left laps = s.left laps + r.yields.toNat := by
  unfold runRound
  split
  · next f log engine refused => exact left_finish (s := { s with engine, log := _ }) found scheduled rfl
  · next scripts log engine answered =>
    let u : Session σ := { s with engine, log := s.log ++ log }
    have rounds : (u.runBatch set later scripts).2.rounds = s.rounds :=
      congrArg Course.rounds (course_runBatch set scripts u)
    have kept : (u.runBatch set later scripts).2.left laps = s.left laps :=
      runBatch_keeps (P := fun t => t.left laps = s.left laps)
        (fun script t h => (left_runScript set script t).trans h) scripts rfl
    rw [← rounds] at found
    rw [← kept]
    split
    · next f t ran =>
      have ran : u.runBatch set later scripts = (.error f, t) := ran
      rw [ran] at found ⊢
      exact left_finish found scheduled rfl
    · next outcomes t ran =>
      have ran : u.runBatch set later scripts = (.ok outcomes, t) := ran
      rw [ran] at found ⊢
      exact left_finish (s := { t with outcomes := t.outcomes ++ outcomes }) found scheduled rfl

/-! ## Jobs -/

theorem Round.le_left {r : Round} (laps : Nat) (stands : r.stand = .queued ∨ r.stand = .waiting) :
    laps + 1 + r.yields.toNat ≤ r.left laps := by
  rcases stands with stands | stands
  all_goals
    rw [Round.left, stands]
    simp only
    omega

theorem left_ask (set : Setting σ) {r : Round} (found : s.rounds[n]? = some r) (scheduled : r.scheduled = true)
    (stands : r.stand = .queued ∨ r.stand = .waiting) (takes : set.bridge.laps s.document.url = laps) :
    (s.ask set n r.phase).left laps < s.left laps := by
  have before := Round.le_left laps stands
  have asking : (s.asking n r.phase).left laps + r.left laps = s.left laps + r.yields.toNat :=
    left_setRound (s := { s with requested := s.requested ++ [r.phase] }) laps found fun r => { r with stand := .asked }
  rw [ask_eq, takes]
  cases laps with
  | zero =>
    have there : (s.asking n r.phase).rounds[n]? = some { r with stand := .asked } := by
      simp [Session.asking, setStand, setRound, found]
    have ran := left_runRound (s := s.asking n r.phase) 0 set r.phase there scheduled
    have after : Round.left 0 { r with stand := .asked } = r.yields.toNat := rfl
    dsimp only at ran ⊢
    omega
  | succ l =>
    dsimp only
    rw [left_push]
    simp only [Job.left]
    omega

/-- A job about a round leaves less to do. -/
theorem left_work (set : Setting σ) {j : Job} (h : Chain e d (s.push j)) (about : j.about? ≠ none)
    (takes : set.bridge.laps s.document.url = laps) : (s.work set j).left laps < (s.push j).left laps := by
  rw [left_push]
  cases j with
  | round n =>
    -- Having its turn, a round no longer yields, asks for its batch, fails or waits.
    obtain ⟨r, found, -, scheduled, ⟨yields, passes⟩ | ⟨rfl, stands, ⟨-, asks⟩ | ⟨-, f, fails⟩⟩ |
      ⟨-, stands, waits⟩⟩ := h.turn_cases set
    · have passed := left_setRound laps found fun r => { r with yields := false }
      have less : Round.left laps { r with yields := false } + 1 = r.left laps := by
        simp only [Round.left, yields, Bool.toNat_true, Bool.toNat_false]
        omega
      rw [passes, left_push]
      simp only [Job.left]
      omega
    · rw [asks]
      exact left_ask set found scheduled stands takes
    · have ended : (s.finish n (.failed f)).left laps + r.left laps = s.left laps + r.yields.toNat :=
        left_finish found scheduled rfl
      have before := Round.le_left laps stands
      rw [fails]
      simp only [Job.left]
      omega
    · have waited := left_setRound laps found fun r => { r with stand := .waiting }
      have less : Round.left laps { r with stand := .waiting } + 1 = r.left laps := by
        rw [Round.left, Round.left, stands]
        simp only
        omega
      rw [waits, setStand]
      simp only [Job.left]
      omega
  | answer n l =>
    cases l with
    | zero =>
      obtain ⟨rfl, -, r, found, -, -, scheduled, -⟩ := h.of_answer rfl
      have at_n : s.round? n = some r := found
      have ran := left_runRound laps set r.phase found scheduled
      have least : r.yields.toNat ≤ r.left laps := Nat.le_add_right _ _
      simp only [work, at_n, Job.left]
      omega
    | succ l =>
      rw [work, left_push]
      simp only [Job.left]
      omega
  | report | request | wake => exact absurd rfl about

/-- A job that is about no round leaves as much to do. -/
theorem left_other (set : Setting σ) {j : Job} (about : j.about? = none) (s : Session σ) :
    (s.work set j).left laps = s.left laps := by
  cases j with
  | round | answer => cases about
  | report o =>
    obtain ⟨engine, log, delivered⟩ := exists_deliver set o s
    rw [work, delivered]
    rfl
  | request a d =>
    exact perform_keeps (P := fun t => t.left laps = s.left laps)
      (fun x t h => (confined_act set a x t).left.trans h) (fun _ _ h => h) (fun _ _ h => h) d rfl
  | wake => rfl

/-! ## Turns -/

def Rests (s : Session σ) : Prop := s.jobs = [] ∧ s.reports = []

/-- A job that is about no round and takes no report. -/
def Job.isAside (j : Job) : Bool := j.about?.isNone && j.report?.isNone

theorem rests_iff : s.Rests ↔ ∀ j ∈ s.queue, j.isAside = true := by
  rw [Rests, jobs, reports, List.filterMap_eq_nil_iff, List.filterMap_eq_nil_iff]
  simp only [Job.isAside, Bool.and_eq_true, Option.isNone_iff_eq_none, ← forall₂_and]

/-- What such a job leaves: the rounds and the reports as they are, and what waits, with more behind it at most. -/
theorem work_aside (set : Setting σ) {j : Job} (aside : j.isAside = true) (s : Session σ) :
    (s.work set j).jobs = s.jobs ∧ (s.work set j).reports = s.reports ∧ s.queue <+: (s.work set j).queue := by
  cases j with
  | round | answer | report => cases aside
  | request a d =>
    refine ⟨congrArg Course.jobs (course_perform d s), congrArg Account.reports (account_perform d s), ?_⟩
    refine perform_keeps (P := fun t => s.queue <+: t.queue) (fun x t h => ?_) (fun _ _ h => h) (fun _ _ h => h) d
      (List.prefix_refl _)
    obtain ⟨requests, queued⟩ := (confined_act set a x t).queue
    rw [queued]
    exact h.trans (List.prefix_append _ _)
  | wake => exact ⟨rfl, rfl, List.prefix_refl _⟩

theorem turn_of_empty (queue : s.queue = []) : s.turn set 0 = s := turn_of_none (by rw [queue]; rfl)

theorem turn_of_queue {j : Job} {rest : List Job} (queue : s.queue = j :: rest) :
    s.turn set 0 = { s with queue := rest }.work set j := by
  rw [turn_eq (j := j) (by rw [queue]; rfl), without, queue]
  rfl

theorem Chain.of_queue {j : Job} {rest : List Job} (h : Chain e d s) (queue : s.queue = j :: rest) :
    Chain e d (({ s with queue := rest } : Session σ).push j) := by
  have first : s.queue[0]? = some j := by rw [queue]; rfl
  have same := jobs_without first
  rw [without, queue] at same
  exact h.congr rfl same

/-- The oldest job is done: a page in order stays in order. -/
theorem Orderly.turn_oldest (set : Setting σ) (h : Orderly e d s) : ∃ e' d', Orderly e' d' (s.turn set 0) := by
  rcases h.move set (.turn set.bridge 0) with ⟨kept, -⟩ | ⟨-, e', -, -, -, -, next, -⟩
  · exact ⟨e, d, kept⟩
  · exact ⟨e', d + 1, next⟩

/-- The oldest job is done. Either it leaves less of the rounds to do, or as much and less reports, or as much and
as many and less that is before them. -/
theorem Orderly.nearer (set : Setting σ) (h : Orderly e d s) (waits : ¬ s.Rests) :
    let l := set.bridge.laps s.document.url
    let t := s.turn set 0
    t.left l < s.left l ∨
      t.left l = s.left l ∧ (t.reports.length < s.reports.length ∨
        t.reports.length = s.reports.length ∧
          (t.queue.takeWhile Job.isAside).length < (s.queue.takeWhile Job.isAside).length) := by
  intro l t
  cases queue : s.queue with
  | nil =>
    refine absurd ⟨?_, ?_⟩ waits
    · rw [jobs, queue]; rfl
    · rw [reports, queue]; rfl
  | cons j rest =>
    let u : Session σ := { s with queue := rest }
    have turned : t = u.work set j := turn_of_queue queue
    have before : s.left l = (u.push j).left l := by
      rw [left_push, left, queue, List.map_cons, List.sum_cons, Nat.add_comm j.left, ← Nat.add_assoc]
      rfl
    have atHand : s.reports = j.report?.toList ++ u.reports := by
      rw [reports, queue, List.filterMap_cons]
      cases j <;> rfl
    rw [turned, before, atHand]
    by_cases about : j.about? = none
    · right
      refine ⟨?_, ?_⟩
      · rw [left_other set about, left_push]
        cases j with
        | round | answer => cases about
        | _ => rfl
      · cases aside : j.isAside with
        | true =>
          right
          obtain ⟨-, kept, more, grown⟩ := work_aside set aside u
          -- Among the jobs behind it is one that is not aside, and what is new comes behind that.
          have some : ¬ ∀ j' ∈ rest, j'.isAside = true := fun all =>
            waits (rests_iff.mpr (queue ▸ List.forall_mem_cons.mpr ⟨aside, all⟩))
          have short : (rest.takeWhile Job.isAside).length ≠ rest.length := fun whole =>
            some (List.takeWhile_eq_self_iff.mp ((List.takeWhile_prefix _).eq_of_length whole))
          refine ⟨?_, ?_⟩
          · rw [kept]
            cases j with
            | report => cases aside
            | _ => rfl
          · rw [← grown, List.takeWhile_append, if_neg short, List.takeWhile_cons, aside, if_pos rfl]
            exact Nat.lt_succ_self _
        | false =>
          left
          cases j with
          | report o =>
            obtain ⟨engine, log, delivered⟩ := exists_deliver set o u
            rw [work, delivered]
            exact Nat.lt_succ_self _
          | round | answer => cases about
          | request | wake => cases aside
    · left
      exact left_work set (h.toChain.of_queue queue) about rfl

theorem Rests.turn (set : Setting σ) (h : s.Rests) : (s.turn set 0).Rests := by
  cases queue : s.queue with
  | nil =>
    rw [turn_of_empty queue]
    exact h
  | cons j rest =>
    have all := rests_iff.mp h
    rw [queue, List.forall_mem_cons] at all
    obtain ⟨jobs, reports, -⟩ := work_aside set all.1 { s with queue := rest }
    have before : Rests { s with queue := rest } := rests_iff.mpr all.2
    rw [turn_of_queue queue]
    exact ⟨jobs.trans before.1, reports.trans before.2⟩

/-- After some jobs no round and no report waits, whatever the scripts put off. -/
theorem Orderly.rests {e d : Nat} {s : Session σ} (set : Setting σ) (h : Orderly e d s) :
    ∃ n, ((Session.turn set 0)^[n] s).Rests := by
  by_cases waits : s.Rests
  · exact ⟨0, waits⟩
  · have nearer := h.nearer set waits
    obtain ⟨e', d', next⟩ := h.turn_oldest set
    have url : (s.turn set 0).document.url = s.document.url := congrArg Prod.fst (page_turn set 0 s)
    obtain ⟨n, rests⟩ := next.rests set
    exact ⟨n + 1, rests⟩
termination_by (s.left (set.bridge.laps s.document.url), s.reports.length, (s.queue.takeWhile Job.isAside).length)
decreasing_by
  rw [url]
  rcases nearer with less | ⟨same, less | ⟨same', less⟩⟩
  · exact .left _ _ less
  · rw [same]
    exact .right _ (.left _ _ less)
  · rw [same, same']
    exact .right _ (.right _ less)

/-- Doing jobs for long enough leaves no round and no report. -/
theorem Orderly.rests_after (set : Setting σ) (h : Orderly e d s) :
    ∃ n, ∀ m, n ≤ m → ((Session.turn set 0)^[m] s).Rests := by
  obtain ⟨n, rests⟩ := h.rests set
  refine ⟨n, fun m long => ?_⟩
  induction m, long using Nat.le_induction with
  | base => exact rests
  | succ m _ ih =>
    rw [Function.iterate_succ_apply']
    exact ih.turn set

end Userscript.Session
