import Userscript.Proofs.Session.Course

/-!
# Userscript.Proofs.Session.Accounts

The books of a page: its outcomes, its count of runs and the badge, the engine, and the reports under way.

Scripts and requests leave them alone; a batch and the delivery of a report are all that changes them.

* `Session.account` are the books of a page;
* `Indicator.Shows` is what a badge shows after so many runs, and `Shows.visible_iff` when it is seen;
* `Adds` is what a batch adds to the books, and `adds_runBatch`: so does each, whether it ends or breaks off;
* `shows_runBatch`: the badge is right at every moment of a batch, too.
-/

namespace Userscript

open Machine

/-! ## The badge -/

/-- What a badge shows after so many runs that came to their end: their count, if there was one. -/
structure Page.Indicator.Shows (badge : Page.Badge) (dismissed : Bool) (n : Nat) (i : Page.Indicator) : Prop where
  badge : i.badge = badge
  created : i.created = decide (0 < n)
  count : 0 < n → i.count = n
  dismissed : i.dismissed = dismissed

namespace Page.Indicator.Shows

variable {badge : Badge} {dismissed : Bool} {n : Nat} {i : Indicator}

theorem update (h : i.Shows badge dismissed n) : (i.update (n + 1 : Nat)).Shows badge dismissed (n + 1) := by
  have positive : ¬ ((n + 1 : Nat) : Int) ≤ 0 := by omega
  rw [Indicator.update, if_neg positive]
  exact ⟨h.badge, (decide_eq_true n.succ_pos).symm, fun _ => rfl, h.dismissed⟩

theorem dismiss (h : i.Shows badge dismissed n) : i.dismiss.Shows badge true n :=
  ⟨h.badge, h.created, h.count, rfl⟩

theorem visible_iff (h : i.Shows badge dismissed n) :
    i.visible = true ↔ badge.enabled = true ∧ 0 < n ∧ dismissed = false := by
  rw [visible, h.badge, h.created, h.dismissed]
  simp [and_assoc]

end Page.Indicator.Shows

namespace Session

variable {σ α : Type} {set : Setting σ} {a : Author} {s t : Session σ}

/-! ## The books -/

/-- The books of a page. -/
structure Account (σ : Type) where
  outcomes : List Outcome
  runCount : Nat
  indicator : Page.Indicator
  engine : σ
  /-- The reports under way. -/
  reports : List Outcome

/-- The books of a page as they are. -/
def account (s : Session σ) : Account σ := ⟨s.outcomes, s.runCount, s.document.indicator, s.engine, s.reports⟩

theorem Confined.account (h : Confined a s t) : t.account = s.account := by
  obtain ⟨sheets, grown⟩ := h.document
  obtain ⟨requests, queued⟩ := h.queue
  have indicator : t.document.indicator = s.document.indicator := by rw [grown, Page.Document.addStyles_eq]
  have quiet : (requests.map (Job.request a)).filterMap Job.report? = [] := by
    rw [List.filterMap_map, List.filterMap_eq_nil_iff]
    exact fun _ _ => rfl
  have reports : t.reports = s.reports := by
    rw [Session.reports, queued, List.filterMap_append, quiet, List.append_nil]
    rfl
  rw [Session.account, indicator, reports, h.rest]
  rfl

theorem account_act (x : Act α) (s : Session σ) : (s.act set a x).2.account = s.account :=
  (confined_act set a x s).account

theorem account_write (line : LogLine) (s : Session σ) : (s.write line).account = s.account := rfl

theorem account_perform (d : Relay.Details) (s : Session σ) : (s.perform set a d).account = s.account :=
  perform_keeps (P := fun t => t.account = s.account) (fun x t h => (account_act x t).trans h)
    (fun line t h => (account_write line t).trans h) (fun _ _ h => h) d rfl

/-- What is counted of a page: its outcomes, the runs that came to their end, and what the badge shows of them. -/
def counts (s : Session σ) : List Outcome × Nat × Page.Indicator := (s.outcomes, s.runCount, s.document.indicator)

theorem counts_of_account (same : t.account = s.account) : t.counts = s.counts :=
  congrArg (fun b => (b.outcomes, b.runCount, b.indicator)) same

/-- A job that is about no round counts nothing. -/
theorem counts_work (set : Setting σ) {j : Job} (other : j.about? = none) (s : Session σ) :
    (s.work set j).counts = s.counts := by
  cases j with
  | round | answer => cases other
  | report o =>
    obtain ⟨engine, log, delivered⟩ := exists_deliver set o s
    rw [work, delivered]
    rfl
  | request a details => exact counts_of_account (account_perform details s)
  | wake => rfl

/-! ## Batches -/

theorem engine_runScript_later (set : Setting σ) (script : Script) (s : Session σ) :
    (s.runScript set later script).2.engine = s.engine :=
  runScript_later_keeps (fun h => congrArg Account.engine h.account) (fun _ error _ => by cases error <;> rfl)
    (fun _ _ => rfl) set script s

theorem reports_reported_later (o : Outcome) (s : Session σ) :
    (s.reported later o).reports = s.reports ++ [o].filter (·.id.isSome) := by
  rw [reported_later, List.filter_singleton]
  split
  · next some =>
    rw [reports, push, List.filterMap_append, some]
    rfl
  · next none =>
    rw [Bool.not_eq_true] at none
    rw [none]
    exact (List.append_nil _).symm

/-- The report of a script that was run waits behind those under way, if the script has an id. -/
theorem reports_of_ok {script : Script} {o : Outcome} (ran : s.runScript set later script = (.ok o, t)) :
    t.reports = s.reports ++ [o].filter (·.id.isSome) := by
  obtain ⟨origin, error, u, -, code, -, rfl⟩ := runScript_ok ran
  have settled : (u.settled script error).reports = u.reports := by cases error <;> rfl
  rw [reports_reported_later, settled]
  exact congrArg (· ++ _) (congrArg Account.reports (confined_of_runCode code).account)

theorem reports_of_error {script : Script} {f : Fault} (ran : s.runScript set later script = (.error f, t)) :
    t.reports = s.reports := by
  rcases runScript_error ran with ⟨-, rfl⟩ | ⟨origin, -, code⟩
  · rfl
  · exact congrArg Account.reports (confined_of_runCode code).account

theorem shows_runScript {report : Reporter σ} (apart : report.IsApart) {badge : Page.Badge} {dismissed : Bool}
    (set : Setting σ) (script : Script) (s : Session σ)
    (h : s.document.indicator.Shows badge dismissed s.runCount) :
    (s.runScript set report script).2.document.indicator.Shows badge dismissed
      (s.runScript set report script).2.runCount := by
  cases ran : s.runScript set report script with
  | mk answer t =>
    cases answer with
    | error f =>
      rw [indicator_of_error ran, runCount_of_error ran]
      exact h
    | ok o =>
      rw [indicator_of_ok apart ran, runCount_of_ok apart ran]
      split
      · exact h.update
      · exact h

/-- At every moment of a batch the badge shows how many runs came to their end by then. -/
theorem shows_runBatch {report : Reporter σ} (apart : report.IsApart) {badge : Page.Badge} {dismissed : Bool}
    (scripts : List Script) (h : s.document.indicator.Shows badge dismissed s.runCount) :
    (s.runBatch set report scripts).2.document.indicator.Shows badge dismissed
      (s.runBatch set report scripts).2.runCount :=
  runBatch_keeps (P := fun s => s.document.indicator.Shows badge dismissed s.runCount)
    (shows_runScript apart set) scripts h

/-- An outcome that tells of an error has words for it. -/
theorem error_of_runScript {report : Reporter σ} {script : Script} {o : Outcome}
    (ran : s.runScript set report script = (.ok o, t)) : o.error ≠ some "" := by
  obtain ⟨origin, error, u, -, code, rfl, -⟩ := runScript_ok ran
  have answer : (s.runCode set origin script).1 = .ok error := by rw [code]
  unfold runCode at answer
  split at answer
  · next f refused =>
    cases answer
    exact fun none => Program.described_ofSource refused (Option.some.inj none)
  · split at answer
    · cases answer
      exact nofun
    · obtain ⟨text, told, rfl⟩ := map_eq_ok answer
      exact fun none => Trouble.ne_empty_of_told told (Option.some.inj none)

/-- What a batch adds to the books of a page, given the outcomes that it made and those that it left. -/
structure Adds (made left : List Outcome) (b c : Account σ) : Prop where
  outcomes : c.outcomes = b.outcomes ++ left
  runCount : c.runCount = b.runCount + made.countP Outcome.ok
  shows : ∀ badge dismissed, b.indicator.Shows badge dismissed b.runCount →
    c.indicator.Shows badge dismissed c.runCount
  engine : c.engine = b.engine
  reports : c.reports = b.reports ++ made.filter (·.id.isSome)

theorem foldl_filter (os rs : List Outcome) :
    os.foldl (fun rs o => rs ++ [o].filter (·.id.isSome)) rs = rs ++ os.filter (·.id.isSome) := by
  induction os generalizing rs with
  | nil => exact (List.append_nil rs).symm
  | cons o rest ih => rw [List.foldl_cons, ih, List.append_assoc, ← List.filter_append, List.singleton_append]

/-- The outcomes that a batch makes are in all books but one while it runs: they are left on the page at its end, if it
comes to that. -/
theorem adds_runBatch (set : Setting σ) (scripts : List Script) (left : List Outcome) (s : Session σ) :
    Adds (s.made set later scripts) left s.account
      { (s.runBatch set later scripts).2.account with outcomes := (s.runBatch set later scripts).2.outcomes ++ left } where
  outcomes := congrArg (· ++ left) (congrArg Course.outcomes (course_runBatch set scripts s))
  runCount := runCount_runBatch apart_later scripts s
  shows _ _ shows := shows_runBatch apart_later scripts shows
  engine := runBatch_keeps (P := fun t => t.engine = s.engine)
    (fun script t same => (engine_runScript_later set script t).trans same) scripts rfl
  reports := (runBatch_foldl reports (fun rs o => rs ++ [o].filter (·.id.isSome)) reports_of_ok reports_of_error
    scripts s).trans (foldl_filter _ _)

/-- An outcome that a batch made is one of a script of the batch, and has words for its error. -/
theorem of_mem_made {report : Reporter σ} {scripts : List Script} {o : Outcome} (mem : o ∈ s.made set report scripts) :
    (∃ script ∈ scripts, o.id = script.id) ∧ o.error ≠ some "" := by
  obtain ⟨script, within, t, u, ran⟩ := exists_of_mem_made mem
  obtain ⟨_, _, _, -, -, same, -⟩ := runScript_ok ran
  exact ⟨⟨script, within, by rw [same]⟩, error_of_runScript ran⟩

end Session
end Userscript
