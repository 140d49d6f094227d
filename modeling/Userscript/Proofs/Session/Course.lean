import Userscript.Proofs.Session.Batch
import Userscript.Session.Rounds

/-!
# Userscript.Proofs.Session.Course

What the phases of a page go by.

Scripts change the styles of a page, its storage, its memory and its log, and they put off requests and
reports. None of that moves the phases: whatever the machine does for a script, the course of the page stays
what it was.

* `Session.course` is what the phases go by, and the outcomes they left;
* `Confined.course`, `course_perform`, `course_deliver`: no script, no request and no report moves it;
* `course_runBatch`: no batch moves it, whether it ends or breaks off.
-/

namespace Userscript

open Machine

namespace Session

/-- The round that a job is about, and whether it brings the answer for it. -/
def Job.about? : Job → Option (Nat × Bool)
  | .round n => some (n, false)
  | .answer n _ => some (n, true)
  | _ => none

/-- The report that a job takes to the engine. -/
def Job.report? : Job → Option Outcome
  | .report o => some o
  | _ => none

/-- What the phases of a page go by, and the outcomes they left. -/
structure Course where
  url : String
  state : Page.ReadyState
  listeners : List (String × Phase)
  attached : Bool
  rounds : List Round
  last : Option Nat
  requested : List Phase
  outcomes : List Outcome
  idle : Bool
  /-- The jobs that are about rounds. -/
  jobs : List (Nat × Bool)

variable {σ : Type} {set : Setting σ} {a : Author}

/-- The jobs of a page that are about rounds. -/
def jobs (s : Session σ) : List (Nat × Bool) := s.queue.filterMap Job.about?

/-- The reports that are under way. -/
def reports (s : Session σ) : List Outcome := s.queue.filterMap Job.report?

/-- What the phases of a page go by. -/
def course (s : Session σ) : Course :=
  { url := s.document.url, state := s.document.state, listeners := s.document.listeners
    attached := s.attached, rounds := s.rounds, last := s.last, requested := s.requested
    outcomes := s.outcomes, idle := s.idle, jobs := s.jobs }

theorem jobs_push (j : Job) (s : Session σ) : (s.push j).jobs = s.jobs ++ j.about?.toList := by
  rw [jobs, push, List.filterMap_append]
  cases j <;> rfl

/-- A job counts for the round that it is about, and for no other. -/
theorem count_push (j : Job) (x : Nat × Bool) (s : Session σ) :
    (s.push j).jobs.count x = s.jobs.count x + if j.about? = some x then 1 else 0 := by
  rw [jobs_push, List.count_append]
  cases j.about? with
  | none => rfl
  | some y =>
    rw [Option.toList, List.count_singleton]
    simp only [beq_iff_eq, Option.some.injEq]

theorem count_push_self {j : Job} {x : Nat × Bool} (about : j.about? = some x) (s : Session σ) :
    (s.push j).jobs.count x = s.jobs.count x + 1 := by
  rw [count_push, if_pos about]

theorem count_push_of_ne {j : Job} {x : Nat × Bool} (about : j.about? ≠ some x) (s : Session σ) :
    (s.push j).jobs.count x = s.jobs.count x := by
  rw [count_push, if_neg about, Nat.add_zero]

/-- A job that is about no round does not move the course. -/
theorem course_push {j : Job} (other : j.about? = none) (s : Session σ) : (s.push j).course = s.course := by
  have kept : (s.push j).jobs = s.jobs := by rw [jobs_push, other, Option.toList, List.append_nil]
  rw [course, kept]
  rfl

theorem course_write (line : LogLine) (s : Session σ) : (s.write line).course = s.course := rfl

/-- Nothing that an author may change of a page moves it. -/
theorem Confined.course {s t : Session σ} (h : Confined a s t) : t.course = s.course := by
  obtain ⟨sheets, grown⟩ := h.document
  obtain ⟨requests, queued⟩ := h.queue
  have page : (t.document.url, t.document.state, t.document.listeners) =
      (s.document.url, s.document.state, s.document.listeners) := by rw [grown, Page.Document.addStyles_eq]
  obtain ⟨url, state, listeners⟩ := by simpa only [Prod.mk.injEq] using page
  have quiet : (requests.map (Job.request a)).filterMap Job.about? = [] := by
    rw [List.filterMap_map, List.filterMap_eq_nil_iff]
    exact fun _ _ => rfl
  have jobs : t.jobs = s.jobs := by
    rw [Session.jobs, queued, List.filterMap_append, quiet, List.append_nil]
    rfl
  rw [Session.course, url, state, listeners, jobs, h.rest]
  rfl

/-! ## Requests and reports -/

/-- What steps of scripts keep, it keeps to make a request ready. -/
theorem ready_keeps {P : Session σ → Prop}
    (act : ∀ {β : Type} (x : Act β) (s : Session σ), P s → P (s.act set a x).2) (d : Relay.Details) {s : Session σ}
    (h : P s) : P (s.ready set a d).2 := by
  have read : P (s.act set a (Relay.methodOf d)).2 := act _ s h
  unfold ready
  split
  · next known =>
    rw [known] at read
    exact read
  · next method t known =>
    rw [known] at read
    have wanted : P (t.act set a (Relay.wantedOf d method)).2 := act _ t read
    split <;> next found =>
      rw [found] at wanted
      exact wanted

/-- What steps of scripts and lines in the log keep, it keeps to call a function with news. -/
theorem tell_keeps {P : Session σ → Prop} (act : ∀ (x : Act Value) (s : Session σ), P s → P (s.act set a x).2)
    (write : ∀ (line : LogLine) (s : Session σ), P s → P (s.write line)) (n : Relay.News) (f : Value) {s : Session σ}
    (h : P s) : P (s.tell set a n f) := by
  unfold tell
  dsimp only
  split
  · split
    · exact write _ _ (act _ s h)
    · exact act _ s h
  · exact act _ s h

/-- What steps of scripts and lines in the log keep, it keeps to tell a script what came of a request. -/
theorem conclude_keeps {P : Session σ → Prop} (act : ∀ (x : Act Value) (s : Session σ), P s → P (s.act set a x).2)
    (write : ∀ (line : LogLine) (s : Session σ), P s → P (s.write line)) (d : Relay.Details) (n : Relay.News)
    {s : Session σ} (h : P s) : P (s.conclude set a d n) := by
  unfold conclude
  split
  · exact tell_keeps act write n _ h
  · exact h

/-- What steps of scripts and the network keep, a request keeps until its script is told. -/
theorem attempt_keeps {P : Session σ → Prop}
    (act : ∀ {β : Type} (x : Act β) (s : Session σ), P s → P (s.act set a x).2)
    (exchange : ∀ (w : Relay.Wanted) (s : Session σ), P s → P (s.exchange set w).2) (d : Relay.Details)
    {s : Session σ} (h : P s) : P (s.attempt set a d).2 := by
  have made : P (s.ready set a d).2 := ready_keeps act d h
  unfold attempt
  split
  · next done =>
    rw [done] at made
    exact made
  · next w t done =>
    rw [done] at made
    have exchanged : P (t.exchange set w).2 := exchange w t made
    split <;> next sent =>
      rw [sent] at exchanged
      exact exchanged

/-- What steps of scripts, lines in the log and the network keep, a request keeps. -/
theorem perform_keeps {P : Session σ → Prop}
    (act : ∀ {β : Type} (x : Act β) (s : Session σ), P s → P (s.act set a x).2)
    (write : ∀ (line : LogLine) (s : Session σ), P s → P (s.write line))
    (exchange : ∀ (w : Relay.Wanted) (s : Session σ), P s → P (s.exchange set w).2) (d : Relay.Details)
    {s : Session σ} (h : P s) : P (s.perform set a d) :=
  conclude_keeps act write d _ (attempt_keeps act exchange d h)

theorem course_perform (d : Relay.Details) (s : Session σ) : (s.perform set a d).course = s.course :=
  perform_keeps (P := fun t => t.course = s.course) (fun x t h => (confined_act set a x t).course.trans h)
    (fun line t h => (course_write line t).trans h) (fun _ _ h => h) d rfl

/-- A report changes the engine, and the log if it is lost. -/
theorem exists_deliver (set : Setting σ) (o : Outcome) (s : Session σ) :
    ∃ engine log, s.deliver set o = { s with engine, log } := by
  unfold deliver
  split
  · exact ⟨s.engine, s.log, rfl⟩
  · split <;> exact ⟨_, _, rfl⟩

theorem course_deliver (o : Outcome) (s : Session σ) : (s.deliver set o).course = s.course := by
  obtain ⟨engine, log, delivered⟩ := exists_deliver set o s
  rw [delivered]
  rfl

/-! ## Batches -/

theorem apart_later : (later : Reporter σ).IsApart where
  document o s := by
    simp only [later]
    split <;> rfl
  runCount o s := by
    simp only [later]
    split <;> rfl

theorem reported_later (o : Outcome) (s : Session σ) :
    s.reported later o = if o.id.isSome then s.push (.report o) else s := rfl

/-- The run of a script keeps what its code, the note of how it ended, and a report that waits keep. -/
theorem runScript_later_keeps {β : Type} {view : Session σ → β}
    (confined : ∀ {a : Author} {s t : Session σ}, Confined a s t → view t = view s)
    (settled : ∀ (script : Script) (error : Option String) (s : Session σ), view (s.settled script error) = view s)
    (pushed : ∀ (o : Outcome) (s : Session σ), view (s.push (.report o)) = view s) (set : Setting σ)
    (script : Script) (s : Session σ) : view (s.runScript set later script).2 = view s := by
  refine runScript_keeps (P := fun t => view t = view s) ?_ ?_ ?_ rfl
  · exact fun origin t same => (confined (confined_runCode set origin script t)).trans same
  · exact fun error t same => (settled script error t).trans same
  · intro o t same
    rw [reported_later]
    split
    · exact (pushed o t).trans same
    · exact same

theorem course_runScript (set : Setting σ) (script : Script) (s : Session σ) :
    (s.runScript set later script).2.course = s.course :=
  runScript_later_keeps Confined.course (fun _ error _ => by cases error <;> rfl) (fun _ t => course_push rfl t)
    set script s

/-- No batch moves the course of a page, whether it ends or breaks off. -/
theorem course_runBatch (set : Setting σ) (scripts : List Script) (s : Session σ) :
    (s.runBatch set later scripts).2.course = s.course :=
  runBatch_keeps (P := fun t => t.course = s.course)
    (fun script t same => (course_runScript set script t).trans same) scripts rfl

end Session
end Userscript
