import Userscript.Proofs.Session.Progress

/-!
# Userscript.Proofs.Session.Waiting

Waiting for a page, with jobs done meanwhile.

* `runUntil_keeps`: what the oldest job keeps is kept while anybody waits;
* `Woken`: nobody is woken before the last phase is over, and `Woken.work`: so it stays, whatever a job does;
* `idle_of_waitIdle`: when the wait for the last phase ends, that phase is over.
-/

namespace Userscript.Session

variable {σ : Type} {set : Setting σ} {s t : Session σ} {a : Author}

/-! ## Any wait -/

/-- What the oldest job keeps, whatever it is, all jobs keep, whatever is waited for. -/
theorem runUntil_keeps {P : Session σ → Prop} (turn : ∀ s, P s → P (s.turn set 0)) (stop : Job → Session σ → Bool)
    (fuel : Nat) (h : P s) : P (s.runUntil set stop fuel).2 := by
  induction fuel generalizing s with
  | zero => exact h
  | succ fuel ih =>
    rw [runUntil, step]
    cases queue : s.queue with
    | nil => exact h
    | cons j rest =>
      have next := turn s h
      rw [turn_of_queue queue] at next
      dsimp only
      split
      · exact next
      · exact ih next

theorem waitIdle_keeps {P : Session σ → Prop} (turn : ∀ s, P s → P (s.turn set 0)) (h : P s) :
    P (s.waitIdle set).2 := by
  unfold waitIdle
  split
  · exact h
  · exact runUntil_keeps turn _ _ h

theorem settle_keeps {P : Session σ → Prop} (turn : ∀ s, P s → P (s.turn set 0)) (h : P s) : P (s.settle set) :=
  runUntil_keeps turn _ _ h

/-! ## The wait for the last phase -/

/-- A job that tells who waits that the last phase is over. -/
def Job.wakes : Job → Bool
  | .wake => true
  | _ => false

/-- Nobody is woken before the last phase is over. -/
def Woken (s : Session σ) : Prop := ∀ j ∈ s.queue, j.wakes = true → s.idle = true

namespace Woken

theorem congr (h : Woken s) (queue : t.queue ⊆ s.queue) (idle : t.idle = s.idle) : Woken t :=
  fun j mem wakes => idle.trans (h j (queue mem) wakes)

theorem of_idle (idle : s.idle = true) : Woken s := fun _ _ _ => idle

/-- More jobs, none of which wakes anybody. -/
theorem append (h : Woken s) {jobs : List Job} (queue : t.queue = s.queue ++ jobs)
    (quiet : ∀ j ∈ jobs, j.wakes = false) (idle : t.idle = s.idle) : Woken t := by
  intro j mem wakes
  rw [queue, List.mem_append] at mem
  rcases mem with mem | mem
  · exact idle.trans (h j mem wakes)
  · exact absurd (wakes.symm.trans (quiet j mem)) (by decide)

theorem push (h : Woken s) {j : Job} (quiet : j.wakes = false) : Woken (s.push j) :=
  h.append rfl (List.forall_mem_singleton.mpr quiet) rfl

theorem confined (h : Woken s) (c : Confined a s t) : Woken t := by
  obtain ⟨requests, queued⟩ := c.queue
  have idle : t.idle = s.idle := by rw [c.rest]
  refine h.append queued (fun j mem => ?_) idle
  obtain ⟨d, -, rfl⟩ := List.mem_map.mp mem
  rfl

theorem finish (h : Woken s) (n : Nat) (stand : Stand) : Woken (s.finish n stand) := by
  have turns (ms : List Nat) : ∀ j ∈ ms.map Job.round, j.wakes = false := by
    intro j mem
    obtain ⟨m, -, rfl⟩ := List.mem_map.mp mem
    rfl
  simp only [Session.finish, foldl_push]
  split
  · exact of_idle rfl
  · exact h.append rfl (turns _) rfl

theorem runScript (set : Setting σ) (script : Script) (h : Woken s) : Woken (s.runScript set later script).2 := by
  refine runScript_keeps (P := Woken) ?_ ?_ ?_ h
  · exact fun origin t ht => ht.confined (confined_runCode set origin script t)
  · intro error t ht
    cases error <;> exact ht
  · intro o t ht
    rw [reported_later]
    split
    · exact ht.push rfl
    · exact ht

theorem runRound (set : Setting σ) (h : Woken s) (n : Nat) (p : Phase) : Woken (s.runRound set n p) := by
  have same (log : Log) (engine : σ) : Woken { s with engine, log } := h
  unfold Session.runRound
  split
  · next f log engine refused =>
    let u : Session σ := { s with engine, log := s.log ++ log }
    have written : Woken (u.write (u.noBatch p f)) := h
    exact written.finish n _
  · next scripts log engine answered =>
    have ran : Woken ({ s with engine, log := s.log ++ log }.runBatch set later scripts).2 :=
      runBatch_keeps (fun script _ ht => ht.runScript set script) scripts (same _ _)
    split
    · next failed =>
      rw [failed] at ran
      exact ran.finish n _
    · next outcomes t ended =>
      rw [ended] at ran
      have recorded : Woken { t with outcomes := t.outcomes ++ outcomes } := ran
      exact recorded.finish n _

theorem ask (set : Setting σ) (h : Woken s) (n : Nat) (p : Phase) : Woken (s.ask set n p) := by
  have asking : Woken (s.asking n p) := h
  rw [ask_eq]
  split
  · exact asking.runRound set n p
  · exact asking.push rfl

theorem advance (set : Setting σ) (h : Woken s) (n : Nat) : Woken (s.advance set n) := by
  have moved (f : Round → Round) : Woken (s.setRound n f) := h
  unfold Session.advance
  split
  · exact h
  · split
    · exact (moved _).push rfl
    · split
      · exact h.ask set n _
      · exact h.ask set n _
      · exact h.finish n _
      · exact moved _

/-- No job wakes anybody, unless it ends the last phase. -/
theorem work (set : Setting σ) (h : Woken s) (j : Job) : Woken (s.work set j) := by
  cases j with
  | round n => exact h.advance set n
  | answer n laps =>
    cases laps with
    | zero =>
      simp only [Session.work]
      split
      · exact h.runRound set n _
      · exact h
    | succ laps => exact h.push rfl
  | report o =>
    obtain ⟨engine, log, delivered⟩ := exists_deliver set o s
    rw [Session.work, delivered]
    exact h
  | request a details =>
    exact perform_keeps (P := Woken) (fun x t ht => ht.confined (confined_act set _ x t)) (fun _ _ ht => ht)
      (fun _ _ ht => ht) details h
  | wake => exact h

end Woken

/-- When the wait for the last phase ends, the last phase is over. -/
theorem idle_of_waitIdle (set : Setting σ) (h : Woken s) (ended : (s.waitIdle set).1 = true) :
    (s.waitIdle set).2.idle = true := by
  unfold waitIdle at ended ⊢
  split at ended
  · next idle =>
    rw [if_pos idle]
    exact idle
  · next busy =>
    rw [if_neg busy]
    generalize patience = fuel at ended ⊢
    clear busy
    induction fuel generalizing s with
    | zero => cases ended
    | succ fuel ih =>
      rw [runUntil, step] at ended ⊢
      cases queue : s.queue with
      | nil =>
        rw [queue] at ended
        cases ended
      | cons j rest =>
        have taken : Woken { s with queue := rest } :=
          h.congr (by rw [queue]; exact List.subset_cons_self j rest) rfl
        rw [queue] at ended
        cases j with
        | wake => exact h .wake (by rw [queue]; exact List.mem_cons_self) rfl
        | _ => exact ih (taken.work set _) ended

end Userscript.Session
