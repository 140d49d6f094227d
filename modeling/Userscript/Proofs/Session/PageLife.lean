import Userscript.Proofs.Session.Local
import Userscript.Proofs.Session.Progress

/-!
# Userscript.Proofs.Session.PageLife

The books of a page, over its whole life.

Outcomes are counted and shown while a batch runs, and recorded later, when their reports are delivered; a script
may succeed in one phase and fail in the next, and a batch that breaks off loses what it made. All that is kept of runs
agrees at the end, and goes by the outcomes of the page and by those that were lost.

* `Event` is what may happen to a page, `Session.live` a life of it;
* `Plan.Sound` is what holds of the books when so many batches ended, and `Plan.Lives.happen`: whatever happens
  keeps it;
* `Came` tells how far the batches of a page came, `Closed` are books in which nothing is open any more;
* `page_life_accounts`: the badge is right at every moment, and the books of a page that is loaded are closed after
  some jobs.
-/

namespace Userscript.Session

open Catalog (Store)

/-! ## Lives -/

/-- What may happen to a page and to its badge. -/
inductive Event where
  | attach
  | parsed
  | loaded
  | dismiss
  /-- The oldest job is done. -/
  | job
deriving DecidableEq

section Events

variable {σ : Type} {set : Setting σ} {s : Session σ}

/-- The badge is clicked away. -/
def dismiss (s : Session σ) : Session σ :=
  { s with document := { s.document with indicator := s.document.indicator.dismiss } }

def happen (set : Setting σ) : Event → Session σ → Session σ
  | .attach, s => s.attach
  | .parsed, s => s.finishParsing
  | .loaded, s => s.finishLoading
  | .dismiss, s => s.dismiss
  | .job, s => s.turn set 0

/-- What becomes of a page, one event after another. -/
def live (set : Setting σ) (events : List Event) (s : Session σ) : Session σ :=
  events.foldl (fun s e => s.happen set e) s

theorem live_append (front back : List Event) (s : Session σ) :
    s.live set (front ++ back) = (s.live set front).live set back :=
  List.foldl_append

theorem live_concat (events : List Event) (event : Event) (s : Session σ) :
    s.live set (events ++ [event]) = (s.live set events).happen set event :=
  live_append events [event] s

theorem live_jobs (n : Nat) (s : Session σ) : s.live set (List.replicate n .job) = (turn set 0)^[n] s := by
  induction n generalizing s with
  | zero => rfl
  | succ n ih =>
    rw [List.replicate_succ, live, List.foldl_cons, Function.iterate_succ_apply]
    exact ih _

/-- Doing jobs to the end is doing the oldest job so often. -/
theorem runUntil_eq_live (set : Setting σ) (fuel : Nat) (s : Session σ) :
    (s.runUntil set (fun _ _ => false) fuel).2 = s.live set (List.replicate fuel .job) := by
  rw [live_jobs]
  induction fuel generalizing s with
  | zero => rfl
  | succ fuel ih =>
    rw [runUntil, step, Function.iterate_succ_apply]
    cases queue : s.queue with
    | nil =>
      have idle : s.turn set 0 = s := turn_of_empty queue
      rw [idle, Function.iterate_fixed idle]
    | cons j rest =>
      rw [turn_of_queue queue]
      exact ih _

theorem page_jobs (set : Setting σ) (n : Nat) (s : Session σ) : (s.live set (List.replicate n .job)).page = s.page := by
  rw [live_jobs]
  induction n with
  | zero => rfl
  | succ n ih =>
    rw [Function.iterate_succ_apply']
    exact (page_turn set 0 _).trans ih

theorem account_due (p : Phase) (s : Session σ) : (s.due p).account = s.account := by
  have quiet : (s.due p).reports = s.reports := by
    change (s.queue ++ [_]).filterMap Job.report? = s.reports
    rw [List.filterMap_append]
    exact List.append_nil _
  rw [account, quiet]
  rfl

theorem account_attach (s : Session σ) :
    s.attach.account = s.account ∧ s.attach.document.url = s.document.url :=
  attach_keeps (P := fun t => t.account = s.account ∧ t.document.url = s.document.url)
    (fun p t same => ⟨(account_due p t).trans same.1, same.2⟩) (fun _ _ _ _ same => same) ⟨rfl, rfl⟩

theorem account_through (milestones : List Page.Milestone) (s : Session σ) :
    (s.through milestones).account = s.account ∧ (s.through milestones).document.url = s.document.url :=
  through_keeps (P := fun t => t.account = s.account ∧ t.document.url = s.document.url)
    (fun p t same => ⟨(account_due p t).trans same.1, same.2⟩) (fun _ _ _ _ same => same) milestones ⟨rfl, rfl⟩

/-! ## Batches in a life -/

/-- In a life of a page the batch of a phase is run, on the page as it is then. -/
def RunsIn (set : Setting σ) (p : Phase) (scripts : List Script) (u s : Session σ) (events : List Event) : Prop :=
  ∃ front, front ++ [.job] <+: events ∧ (s.live set front).Serves set p scripts u

/-- In a life of a page the batch of a phase runs to its end. -/
def EndsWithin (set : Setting σ) (p : Phase) (scripts : List Script) (s : Session σ) (events : List Event) : Prop :=
  ∃ u os, RunsIn set p scripts u s events ∧ (u.runBatch set later scripts).1 = .ok os

/-- In a life of a page the batch of a phase breaks off, and the outcomes of the scripts before are lost. -/
def LosesWithin (set : Setting σ) (p : Phase) (scripts : List Script) (lost : List Outcome) (s : Session σ)
    (events : List Event) : Prop :=
  ∃ u before f, RunsIn set p scripts u s events ∧ u.BreaksOff set later scripts before f ∧
    (u.runBatch set later before).1 = .ok lost

/-- How far the batches of a page came in a life of it: those of so many phases ran to their ends, and the next one
broke off, if not all did. -/
structure Came (set : Setting σ) (batch : Phase → List Script) (s : Session σ) (events : List Event) (e : Nat)
    (lost : List Outcome) : Prop where
  ended : ∀ p ∈ Phase.order.take e, EndsWithin set p (batch p) s events
  broken : e = Phase.order.length ∧ lost = [] ∨
    ∃ p, Phase.order[e]? = some p ∧ LosesWithin set p (batch p) lost s events

variable {events : List Event} {p : Phase} {scripts : List Script} {lost : List Outcome} {u : Session σ}

theorem RunsIn.concat (h : RunsIn set p scripts u s events) (event : Event) :
    RunsIn set p scripts u s (events ++ [event]) := by
  obtain ⟨front, within, serves⟩ := h
  exact ⟨front, within.trans (List.prefix_append _ _), serves⟩

theorem EndsWithin.concat (h : EndsWithin set p scripts s events) (event : Event) :
    EndsWithin set p scripts s (events ++ [event]) := by
  obtain ⟨u, os, runs, ended⟩ := h
  exact ⟨u, os, runs.concat event, ended⟩

theorem LosesWithin.concat (h : LosesWithin set p scripts lost s events) (event : Event) :
    LosesWithin set p scripts lost s (events ++ [event]) := by
  obtain ⟨u, before, f, runs, broken, made⟩ := h
  exact ⟨u, before, f, runs.concat event, broken, made⟩

end Events

/-! ## Plans -/

/-- What is settled of a page before it lives: where it is and how its badge looks, what the engine in its house
holds, and with that the batch of each phase. -/
structure Plan where
  url : String
  badge : Page.Badge
  limits : Glob.Limits
  scripts : List Script
  settings : Settings
  clock : Nat
  time : Nat → Json
  identified : ∀ c ∈ scripts, c.id.isSome
  batch : Phase → List Script
  selected : ∀ p, Engine.batchAt limits scripts settings url p = .ok (batch p)

namespace Plan

variable {plan : Plan} {set : Setting Engine} {s s₀ u : Session Engine} {b c : Account Engine} {dismissed : Bool}
  {e e' d : Nat} {p : Phase} {lost : List Outcome} {events : List Event}

/-- The store of the house, with an empty ledger. -/
def store (plan : Plan) : Store :=
  .held { scripts := plan.scripts, settings := plan.settings } plan.clock plan.time

/-- What holds of the books of a page on which so many batches ended, given the outcomes of one that broke off. -/
structure Sound (plan : Plan) (dismissed : Bool) (e : Nat) (lost : List Outcome) (b : Account Engine) : Prop where
  named : b.outcomes.map (fun o => (o.id, o.name)) =
    ((Phase.order.take e).flatMap plan.batch).map fun c => (c.id, c.name)
  known : ∀ o ∈ b.outcomes ++ lost, o.id.isSome ∧ o.error ≠ some ""
  runCount : b.runCount = (b.outcomes ++ lost).countP Outcome.ok
  shows : b.indicator.Shows plan.badge dismissed b.runCount
  matcher : b.engine.matcher.Reached plan.limits
  /-- What was reported and is not under way any more was recorded. -/
  ledger : ∃ delivered, delivered ++ b.reports = b.outcomes ++ lost ∧
    b.engine.store = delivered.foldl Store.recorded plan.store

/-- The scripts of a batch have ids, and so have the outcomes that it makes. -/
theorem known_of_made (plan : Plan) (set : Setting Engine) (p : Phase) (u : Session Engine) :
    ∀ o ∈ u.made set later (plan.batch p), o.id.isSome ∧ o.error ≠ some "" := by
  intro o mem
  obtain ⟨⟨script, within, same⟩, words⟩ := of_mem_made mem
  rw [same]
  exact ⟨plan.identified script (Engine.mem_batchAt (plan.selected p) within), words⟩

namespace Sound

/-- The store is what reports made of the one before: its catalog and its settings are as they were. -/
theorem exists_held (h : plan.Sound dismissed e lost b) {delivered : List Outcome}
    (within : delivered ++ b.reports = b.outcomes ++ lost)
    (recorded : b.engine.store = delivered.foldl Store.recorded plan.store) :
    ∃ runs, b.engine.store = .held { scripts := plan.scripts, settings := plan.settings, runs }
      (plan.clock + delivered.length) plan.time ∧ Store.Tells delivered runs := by
  have known : ∀ o ∈ delivered, o.id.isSome ∧ o.error ≠ some "" := fun o mem =>
    h.known o (within ▸ List.mem_append_left _ mem)
  obtain ⟨runs, after, tells⟩ := Store.ledger_after plan.scripts plan.settings plan.clock plan.time known
  exact ⟨runs, recorded.trans after, tells⟩

theorem uses (h : plan.Sound dismissed e lost b) :
    Engine.Uses plan.limits (.ok (plan.scripts, plan.settings)) b.engine ∧ Engine.InMemory b.engine.store := by
  obtain ⟨delivered, within, recorded⟩ := h.ledger
  obtain ⟨runs, store, -⟩ := h.exists_held within recorded
  refine ⟨⟨h.matcher, ?_⟩, ⟨_, congrArg Store.backend store⟩⟩
  rw [store]
  rfl

/-- Asking for the batch of a phase: it is answered, and the books are as sound as before. -/
theorem select (house : set.bridge = Engine.bridge) (h : plan.Sound dismissed e lost s.account)
    (at_url : s.document.url = plan.url) (p : Phase) :
    ∃ log engine, set.bridge.select s.document.url p s.engine = (.ok (plan.batch p), log, engine) ∧
      plan.Sound dismissed e lost { s.account with engine } := by
  have uses : Engine.Uses plan.limits (.ok (plan.scripts, plan.settings)) s.engine ∧ Engine.InMemory s.engine.store :=
    h.uses
  obtain ⟨log, engine, answered, used', same⟩ := Engine.select_local uses.1 uses.2 (plan.selected p)
  rw [house, at_url]
  refine ⟨log, engine, answered, h.named, h.known, h.runCount, h.shows, used'.1, ?_⟩
  obtain ⟨delivered, within, recorded⟩ := h.ledger
  exact ⟨delivered, within, same.trans recorded⟩

theorem serves {scripts : List Script} (house : set.bridge = Engine.bridge)
    (h : plan.Sound dismissed e lost s.account) (at_url : s.document.url = plan.url)
    (serves : s.Serves set p scripts u) : scripts = plan.batch p ∧ plan.Sound dismissed e lost u.account := by
  obtain ⟨log, engine, answered, beside⟩ := serves
  obtain ⟨log', engine', answered', sound⟩ := h.select house at_url p
  rw [answered'] at answered
  cases answered
  exact ⟨rfl, beside.account ▸ sound⟩

/-- What a batch made is in all books but the ledger, for which it is under way, and on the page itself if it was not
lost. -/
theorem adds (left : List Outcome) (h : plan.Sound dismissed e [] b)
    (known : ∀ o ∈ left ++ lost, o.id.isSome ∧ o.error ≠ some "") (adds : Adds (left ++ lost) left b c)
    (named : c.outcomes.map (fun o => (o.id, o.name)) =
      ((Phase.order.take e').flatMap plan.batch).map fun c => (c.id, c.name)) : plan.Sound dismissed e' lost c := by
  have whole := h.known
  have count := h.runCount
  obtain ⟨delivered, within, recorded⟩ := h.ledger
  rw [List.append_nil] at whole count within
  have ids : (left ++ lost).filter (·.id.isSome) = left ++ lost :=
    List.filter_eq_self.mpr fun o mem => (known o mem).1
  refine ⟨named, ?_, ?_, adds.shows _ _ h.shows, ?_, delivered, ?_, ?_⟩
  · rw [adds.outcomes, List.append_assoc]
    exact List.forall_mem_append.mpr ⟨whole, known⟩
  · rw [adds.runCount, adds.outcomes, count]
    simp only [List.countP_append, Nat.add_assoc]
  · rw [adds.engine]
    exact h.matcher
  · rw [adds.reports, adds.outcomes, ids, ← List.append_assoc, within, List.append_assoc]
  · rw [adds.engine]
    exact recorded

/-- The batch of the next phase ran to its end. -/
theorem ran {os : List Outcome} (h : plan.Sound dismissed e [] u.account) (at_e : Phase.order[e]? = some p)
    (ended : (u.runBatch set later (plan.batch p)).1 = .ok os) (adds : Adds os os u.account c) :
    plan.Sound dismissed (e + 1) [] c := by
  obtain ⟨made, named, -⟩ := runBatch_ok ended
  have known := known_of_made plan set p u
  rw [made] at known
  refine h.adds os (by rwa [List.append_nil]) (by rwa [List.append_nil]) ?_
  rw [adds.outcomes, List.map_append, named, List.take_add_one, at_e, List.flatMap_append, List.map_append, h.named]
  simp

/-- The batch of the next phase broke off. -/
theorem broke (h : plan.Sound dismissed e [] u.account) (made : u.made set later (plan.batch p) = lost)
    (adds : Adds lost [] u.account c) : plan.Sound dismissed e lost c := by
  have known := known_of_made plan set p u
  rw [made] at known
  refine h.adds [] known adds ?_
  rw [adds.outcomes, List.append_nil, h.named]

/-- A report is delivered: it was under way, and now it is recorded. -/
theorem deliver (house : set.bridge = Engine.bridge) {o : Outcome} {rest : List Job}
    (h : plan.Sound dismissed e lost s.account) (queue : s.queue = .report o :: rest) :
    plan.Sound dismissed e lost ({ s with queue := rest }.deliver set o).account := by
  rw [account_deliver house]
  refine ⟨h.named, h.known, h.runCount, h.shows, h.matcher, ?_⟩
  obtain ⟨delivered, within, recorded⟩ := h.ledger
  have first : s.account.reports = o :: rest.filterMap Job.report? := by
    change s.queue.filterMap _ = _
    rw [queue]
    rfl
  refine ⟨delivered ++ [o], ?_, ?_⟩
  · rw [first] at within
    rw [List.append_assoc]
    exact within
  · rw [List.foldl_append]
    exact congrArg (Store.recorded · o) recorded

/-- A job that is about no round keeps the books sound. -/
theorem work (house : set.bridge = Engine.bridge) {j : Job} {rest : List Job}
    (h : plan.Sound dismissed e lost s.account) (queue : s.queue = j :: rest) (other : j.about? = none) :
    plan.Sound dismissed e lost ({ s with queue := rest }.work set j).account := by
  have quiet (none : j.report? = none) : ({ s with queue := rest } : Session Engine).account = s.account := by
    have same : s.reports = rest.filterMap Job.report? := by rw [reports, queue, List.filterMap_cons_none none]
    rw [account, account, same]
    rfl
  cases j with
  | round | answer => cases other
  | report o => exact h.deliver house queue
  | request a details =>
    have same : (({ s with queue := rest } : Session Engine).perform set a details).account = s.account :=
      (account_perform details _).trans (quiet rfl)
    rw [Session.work, same]
    exact h
  | wake =>
    rw [Session.work, quiet rfl]
    exact h

end Sound

/-! ## One event after another -/

/-- What a life left of a page: it is in order, its books are sound, the first batches ended in the life, and the next
one broke off if any round failed. -/
structure Lives (plan : Plan) (set : Setting Engine) (s₀ : Session Engine) (events : List Event) (e d : Nat)
    (lost : List Outcome) : Prop where
  orderly : Orderly e d (s₀.live set events)
  url : (s₀.live set events).document.url = plan.url
  sound : plan.Sound (decide (.dismiss ∈ events)) e lost (s₀.live set events).account
  ended : ∀ p ∈ Phase.order.take e, EndsWithin set p (plan.batch p) s₀ events
  broken : e < d → ∃ p, Phase.order[e]? = some p ∧ LosesWithin set p (plan.batch p) lost s₀ events
  intact : e = d → lost = []

namespace Lives

/-- Something happens that ends no round, or a round fails behind another one. -/
theorem keep {d' : Nat} (h : plan.Lives set s₀ events e d lost) (event : Event)
    (orderly : Orderly e d' ((s₀.live set events).happen set event))
    (url : ((s₀.live set events).happen set event).document.url = (s₀.live set events).document.url)
    (sound : plan.Sound (decide (.dismiss ∈ events ++ [event])) e lost
      ((s₀.live set events).happen set event).account) (fails : d' = d ∨ e < d ∧ d ≤ d') :
    plan.Lives set s₀ (events ++ [event]) e d' lost where
  orderly := by
    rw [live_concat]
    exact orderly
  url := by
    rw [live_concat, url]
    exact h.url
  sound := by
    rw [live_concat]
    exact sound
  ended p mem := (h.ended p mem).concat event
  broken failed := by
    obtain ⟨p, at_e, loses⟩ := h.broken (by omega)
    exact ⟨p, at_e, loses.concat event⟩
  intact whole := h.intact (by omega)

theorem mem_job : decide (Event.dismiss ∈ events ++ [.job]) = decide (.dismiss ∈ events) := by simp

/-- A batch is run, in the turn that a life ends with. -/
theorem runsIn {scripts : List Script} (serves : (s₀.live set events).Serves set p scripts u) :
    RunsIn set p scripts u s₀ (events ++ [.job]) := ⟨events, List.prefix_rfl, serves⟩

/-- The batch of the next round runs to its end. -/
theorem well {t : Session Engine} (house : set.bridge = Engine.bridge) (h : plan.Lives set s₀ events e e lost)
    (turned : s₀.live set (events ++ [.job]) = t) (page : t.page = (s₀.live set events).page)
    (orderly : Orderly (e + 1) (e + 1) t) (at_e : Phase.order[e]? = some p)
    (ended : Ended set p (s₀.live set events) t) : plan.Lives set s₀ (events ++ [.job]) (e + 1) (e + 1) [] := by
  have sound := h.sound
  rw [h.intact rfl] at sound
  cases ended with
  | refused refused =>
    obtain ⟨_, _, answered, -⟩ := sound.select house h.url p
    cases refused.symm.trans answered
  | @ran scripts u os serves ended adds =>
    obtain ⟨rfl, served⟩ := sound.serves house h.url serves
    refine ⟨turned ▸ orderly, ?_, ?_, fun q mem => ?_, fun failed => absurd failed (Nat.lt_irrefl _), fun _ => rfl⟩
    · rw [turned]
      exact (congrArg Prod.fst page).trans h.url
    · rw [turned, mem_job]
      exact served.ran at_e ended adds
    · rw [List.take_add_one, at_e, List.mem_append] at mem
      rcases mem with mem | mem
      · exact (h.ended q mem).concat _
      · obtain rfl := List.mem_singleton.mp mem
        exact ⟨u, os, runsIn serves, ended⟩

/-- The batch of the next round breaks off. -/
theorem breaks {t : Session Engine} {lost' : List Outcome} (house : set.bridge = Engine.bridge)
    (h : plan.Lives set s₀ events e e lost) (turned : s₀.live set (events ++ [.job]) = t)
    (page : t.page = (s₀.live set events).page) (orderly : Orderly e (e + 1) t) (at_e : Phase.order[e]? = some p)
    (broken : Broken set p (s₀.live set events) t lost') : plan.Lives set s₀ (events ++ [.job]) e (e + 1) lost' := by
  have sound := h.sound
  rw [h.intact rfl] at sound
  obtain @⟨scripts, before, u, f, serves, broken, made, adds⟩ := broken
  obtain ⟨rfl, served⟩ := sound.serves house h.url serves
  refine ⟨turned ▸ orderly, ?_, ?_, fun q mem => (h.ended q mem).concat _, fun _ => ⟨p, at_e, ?_⟩, fun whole => by omega⟩
  · rw [turned]
    exact (congrArg Prod.fst page).trans h.url
  · rw [turned, mem_job]
    exact served.broke made adds
  · obtain ⟨os, first, same⟩ := made_of_breaksOff apart_later broken
    rw [← same, made] at first
    exact ⟨u, before, f, runsIn serves, broken, first⟩

/-- The oldest job is done. -/
theorem job (house : set.bridge = Engine.bridge) (h : plan.Lives set s₀ events e d lost) :
    ∃ e' d' lost', plan.Lives set s₀ (events ++ [.job]) e' d' lost' := by
  have page := page_turn set 0 (s₀.live set events)
  have url := congrArg Prod.fst page
  have sound : plan.Sound (decide (.dismiss ∈ events ++ [.job])) e lost (s₀.live set events).account := by
    rw [mem_job]
    exact h.sound
  cases queue : (s₀.live set events).queue with
  | nil =>
    have same : (s₀.live set events).turn set 0 = s₀.live set events := turn_of_empty queue
    exact ⟨e, d, lost, h.keep .job (by rw [Session.happen, same]; exact h.orderly) url
      (by rwa [Session.happen, same]) (.inl rfl)⟩
  | cons j rest =>
    have first : (s₀.live set events).queue[0]? = some j := by rw [queue]; rfl
    have turned : s₀.live set (events ++ [.job]) = (s₀.live set events).turn set 0 := live_concat _ _ _
    rcases h.orderly.turn set first with ⟨kept, -, beside⟩ | ⟨-, p, e', -, at_d, next, ending⟩
    · refine ⟨e, d, lost, h.keep .job kept url ?_ (.inl rfl)⟩
      rw [Session.happen]
      -- Jobs beside the rounds are reports and requests; the others end no round here, so they keep the books.
      by_cases about : j.about? = none
      · rw [turn_of_queue queue]
        exact sound.work house queue about
      · rw [(beside about).account]
        exact sound
    · cases ending with
      | well whole ended =>
        subst whole
        exact ⟨e + 1, e + 1, [], h.well house turned page next at_d ended⟩
      | @broken lost' whole broken =>
        subst whole
        exact ⟨e, e + 1, lost', h.breaks house turned page next at_d broken⟩
      | dropped fewer _ account =>
        refine ⟨e, d + 1, lost, h.keep .job next url ?_ (.inr ⟨fewer, Nat.le_succ d⟩)⟩
        rw [Session.happen, account]
        exact sound

theorem happen (house : set.bridge = Engine.bridge) (h : plan.Lives set s₀ events e d lost) (event : Event) :
    ∃ e' d' lost', plan.Lives set s₀ (events ++ [event]) e' d' lost' := by
  have quiet (other : event ≠ .dismiss) : decide (Event.dismiss ∈ events ++ [event]) = decide (.dismiss ∈ events) := by
    simp [Ne.symm other]
  cases event with
  | attach =>
    obtain ⟨account, url⟩ := account_attach (s₀.live set events)
    refine ⟨e, d, lost, h.keep .attach h.orderly.attach url ?_ (.inl rfl)⟩
    rw [quiet (by decide), Session.happen, account]
    exact h.sound
  | parsed =>
    obtain ⟨account, url⟩ := account_through (s₀.live set events).document.toParsed (s₀.live set events)
    refine ⟨e, d, lost, h.keep .parsed h.orderly.finishParsing url ?_ (.inl rfl)⟩
    rw [quiet (by decide), Session.happen, finishParsing, account]
    exact h.sound
  | loaded =>
    obtain ⟨account, url⟩ := account_through (s₀.live set events).document.toLoaded (s₀.live set events)
    refine ⟨e, d, lost, h.keep .loaded h.orderly.finishLoading url ?_ (.inl rfl)⟩
    rw [quiet (by decide), Session.happen, finishLoading, account]
    exact h.sound
  | dismiss =>
    have gone : decide (Event.dismiss ∈ events ++ [.dismiss]) = true := by simp
    -- Only the badge changes, and from here on it is not seen.
    obtain ⟨named, known, runCount, shows, matcher, ledger⟩ := h.sound
    have orderly := h.orderly.of_page (t := (s₀.live set events).dismiss)
      (h.orderly.toChain.congr rfl (List.Perm.refl _)) rfl
    refine ⟨e, d, lost, h.keep .dismiss orderly rfl ?_ (.inl rfl)⟩
    rw [gone]
    exact ⟨named, known, runCount, shows.dismiss, matcher, ledger⟩
  | job => exact h.job house

theorem after (house : set.bridge = Engine.bridge) (begin : plan.Lives set s₀ [] 0 0 []) (events : List Event) :
    ∃ e d lost, plan.Lives set s₀ events e d lost := by
  induction events using List.reverseRecOn with
  | nil => exact ⟨0, 0, [], begin⟩
  | append_singleton events event ih =>
    obtain ⟨e, d, lost, lives⟩ := ih
    exact lives.happen house event

/-- How far the batches came on a page all of whose rounds are over. -/
theorem came (h : plan.Lives set s₀ events e Phase.order.length lost) : Came set plan.batch s₀ events e lost where
  ended := h.ended
  broken := by
    rcases Nat.eq_or_lt_of_le h.orderly.well_le with whole | failed
    · exact .inl ⟨whole, h.intact whole⟩
    · exact .inr (h.broken failed)

end Lives
end Plan

/-! ## Closed books -/

/-- A page to which no engine was attached yet, with one in its house that keeps a catalog in memory: its scripts
have ids, they say in words when they want to run, and none of them ran. -/
structure Unused (set : Setting Engine) (scripts : List Script) (settings : Settings) (s : Session Engine) : Prop
    extends Fresh s where
  house : set.bridge = Engine.bridge
  identified : ∀ c ∈ scripts, c.id.isSome
  typed : ∀ c ∈ scripts, Engine.IsTyped c
  store : ∃ clock time, s.engine.store = .held { scripts, settings } clock time
  matcher : ∃ limits, s.engine.matcher.Reached limits
  outcomes : s.outcomes = []
  runCount : s.runCount = 0
  indicator : s.document.indicator = { badge := s.document.indicator.badge }

/-- The books of a page in which nothing is open any more, given how it began, how many batches ended, and what one
lost that broke off. -/
structure Closed (batch : Phase → List Script) (s₀ t : Session Engine) (e : Nat) (lost : List Outcome) : Prop where
  /-- The batches that ended left one outcome for each of their scripts, in order. -/
  outcomes : t.outcomes.map (fun o => (o.id, o.name)) =
    ((Phase.order.take e).flatMap batch).map fun c => (c.id, c.name)
  runCount : t.runCount = (t.outcomes ++ lost).countP Outcome.ok
  /-- Each outcome was recorded once, in order, and nothing else was. -/
  recorded : t.engine.store = (t.outcomes ++ lost).foldl Store.recorded s₀.engine.store
  clock : t.engine.store.clock = s₀.engine.store.clock + (t.outcomes ++ lost).length
  /-- The ledger tells of each script what its last run came to. -/
  ledger : ∃ runs, (runOn Store.runs t.engine.store).1 = .ok runs ∧ Store.Tells (t.outcomes ++ lost) runs

variable {set : Setting Engine} {scripts : List Script} {settings : Settings} {s₀ s t : Session Engine} {e : Nat}
  {lost : List Outcome} {events : List Event}

theorem Unused.exists_plan (h : Unused set scripts settings s₀) :
    ∃ plan : Plan, plan.url = s₀.document.url ∧ plan.badge = s₀.document.indicator.badge ∧
      plan.store = s₀.engine.store ∧ plan.Lives set s₀ [] 0 0 [] := by
  obtain ⟨clock, time, store⟩ := h.store
  obtain ⟨limits, matcher⟩ := h.matcher
  have batches (p : Phase) : ∃ batch, Engine.batchAt limits scripts settings s₀.document.url p = .ok batch :=
    Engine.exists_batch h.typed p
  choose batch selected using batches
  let plan : Plan :=
    { url := s₀.document.url, badge := s₀.document.indicator.badge, limits, scripts, settings, clock, time
      identified := h.identified, batch, selected }
  have reports : s₀.reports = [] := by rw [reports, h.queue]; rfl
  have shows : Page.Indicator.Shows s₀.document.indicator.badge false 0 { badge := s₀.document.indicator.badge } :=
    ⟨rfl, rfl, fun some => absurd some (Nat.lt_irrefl 0), rfl⟩
  have sound : plan.Sound false 0 [] s₀.account := by
    rw [account, h.outcomes, h.runCount, h.indicator, reports]
    exact ⟨rfl, List.forall_mem_nil _, rfl, shows, matcher, [], rfl, store⟩
  exact ⟨plan, rfl, rfl, store.symm, h.orderly, rfl, sound, List.forall_mem_nil _, fun failed => by omega, fun _ => rfl⟩

namespace Plan.Lives

variable {plan : Plan}

theorem answers (begin : plan.Lives set s₀ [] 0 0 []) (p : Phase) :
    (runOn (Engine.select (.str s₀.document.url) (.str p.name)) s₀.engine).1 = .ok (plan.batch p) := by
  obtain ⟨engine, -, ran⟩ := Engine.answers_batchAt plan.url p s₀.engine begin.sound.uses.1
  rw [show s₀.document.url = plan.url from begin.url, ran, plan.selected]

/-- When all rounds are over and all reports delivered, the books are closed. -/
theorem closed (h : plan.Lives set s₀ events e Phase.order.length lost) (store : plan.store = s₀.engine.store)
    (delivered : (s₀.live set events).reports = []) : Closed plan.batch s₀ (s₀.live set events) e lost := by
  obtain ⟨os, within, recorded⟩ := h.sound.ledger
  obtain ⟨runs, held, tells⟩ := h.sound.exists_held within recorded
  obtain rfl : os = (s₀.live set events).outcomes ++ lost := by
    have all : os ++ (s₀.live set events).reports = (s₀.live set events).outcomes ++ lost := within
    rw [delivered, List.append_nil] at all
    exact all
  refine ⟨h.sound.named, h.sound.runCount, ?_, ?_, runs, ?_, tells⟩
  · rw [← store]
    exact recorded
  · rw [← store]
    exact congrArg Store.clock held
  · rw [show (s₀.live set events).engine.store = _ from held]
    rfl

/-- A page that is loaded closes its books with some jobs, and with any number of jobs beyond. -/
theorem closed_after (house : set.bridge = Engine.bridge) (begin : plan.Lives set s₀ [] 0 0 [])
    (store : plan.store = s₀.engine.store) (attached : (s₀.live set events).attached = true)
    (complete : (s₀.live set events).document.state = .complete) {n : Nat}
    (rests : ((s₀.live set events).live set (List.replicate n .job)).Rests) :
    ∃ e lost, Came set plan.batch s₀ (events ++ List.replicate n .job) e lost ∧
      Closed plan.batch s₀ ((s₀.live set events).live set (List.replicate n .job)) e lost := by
  have page := page_jobs set n (s₀.live set events)
  rw [← live_append] at rests page ⊢
  obtain ⟨e, d, lost, lives⟩ := after house begin (events ++ List.replicate n .job)
  obtain rfl := lives.orderly.all_over ((congrArg (·.2.2.2.1) page).trans attached)
    ((congrArg (·.2.1) page).trans complete) rests.1
  exact ⟨e, lost, lives.came, lives.closed store rests.2⟩

end Plan.Lives

/-- What a page with an engine in its house tells of runs, over any life of it.

At every moment, also inside a batch, the badge is seen if it may be, a run came to its end, and nobody clicked it
away, and it shows how many runs did. Once the page is attached and loaded, its books are closed after some jobs,
and after any more. So they are when it is closed and no job is left. All batches ran to their ends by then, unless one
broke off: its outcomes are on the page no more, and the phases behind it have none. -/
theorem page_life_accounts (unused : Unused set scripts settings s₀) {events : List Event}
    (life : s₀.live set events = s) :
    (∀ engine log batch, let u := ({ s with engine, log }.runBatch set later batch).2
      (u.document.indicator.visible = true ↔
        s₀.document.indicator.badge.enabled = true ∧ 0 < u.runCount ∧ .dismiss ∉ events) ∧
      (0 < u.runCount → u.document.indicator.count = u.runCount)) ∧
    (s.attached = true → s.document.state = .complete →
      ∃ batch : Phase → List Script,
        (∀ p, (runOn (Engine.select (.str s₀.document.url) (.str p.name)) s₀.engine).1 = .ok (batch p)) ∧
        (∃ n, ∀ m, n ≤ m → ∃ e lost, Came set batch s₀ (events ++ List.replicate m .job) e lost ∧
          Closed batch s₀ (s.runUntil set (fun _ _ => false) m).2 e lost) ∧
        ((s.close set).queue = [] → ∃ e lost, Came set batch s₀ (events ++ List.replicate patience .job) e lost ∧
          Closed batch s₀ (s.close set) e lost)) := by
  obtain ⟨plan, -, badge, store, begin⟩ := unused.exists_plan
  obtain ⟨e, d, lost, lives⟩ := begin.after unused.house events
  subst life
  refine ⟨fun engine log batch => ?_, fun attached complete => ⟨plan.batch, begin.answers, ?_, fun all => ?_⟩⟩
  · have shows : ({ s₀.live set events with engine, log }.runBatch set later batch).2.document.indicator.Shows plan.badge
        (decide (Event.dismiss ∈ events)) ({ s₀.live set events with engine, log }.runBatch set later batch).2.runCount :=
      shows_runBatch apart_later batch lives.sound.shows
    refine ⟨?_, shows.count⟩
    rw [shows.visible_iff, badge, decide_eq_false_iff_not]
  -- Requests may go on for ever, but after some jobs no round and no report waits any more.
  · obtain ⟨n, rests⟩ := lives.orderly.rests_after set
    refine ⟨n, fun m long => ?_⟩
    have rests := rests m long
    rw [← live_jobs] at rests
    rw [runUntil_eq_live]
    exact begin.closed_after unused.house store attached complete rests
  · have settled : (s₀.live set events).settle set = (s₀.live set events).live set (List.replicate patience .job) :=
      runUntil_eq_live set patience _
    have empty : ((s₀.live set events).settle set).queue = [] := all
    have rests : ((s₀.live set events).settle set).Rests := rests_iff.mpr (empty ▸ List.forall_mem_nil _)
    rw [settled] at rests
    obtain ⟨e, lost, came, closed⟩ := begin.closed_after unused.house store attached complete rests
    rw [← settled] at closed
    exact ⟨e, lost, came, closed.outcomes, closed.runCount, closed.recorded, closed.clock, closed.ledger⟩

/-- An engine in the same house, as it is by itself. -/
def atHome : Setting Engine := { bridge := Engine.bridge }

/-- A page whose engine knows a script without words for its error, and no other. -/
def ailing : Session Engine where
  document := { url := "https://a.example/" }
  storage := { quota := 1024 }
  relay := .new [] "" true
  engine := { store := .held { scripts := [unwritten] } 0 Catalog.counting, matcher := .new {} }

theorem unused_ailing : Unused atHome [unwritten] {} ailing where
  toFresh := ⟨.inl rfl, rfl, rfl, rfl, rfl, rfl, rfl, rfl⟩
  house := rfl
  identified := by decide
  typed := List.forall_mem_singleton.mpr (.inl rfl)
  store := ⟨0, Catalog.counting, rfl⟩
  matcher := ⟨{}, .new⟩
  outcomes := rfl
  runCount := rfl
  indicator := rfl

/-- The script is in the batches of two phases. -/
theorem batch_ailing {p : Phase} {batch : List Script}
    (selected : (runOn (Engine.select (.str ailing.document.url) (.str p.name)) ailing.engine).1 = .ok batch) :
    batch = if p = .start then [] else [unwritten] := by
  have mem : ∀ c ∈ batch, c = unwritten := by
    intro c mem
    have uses : Engine.Uses {} (.ok ([unwritten], {})) ailing.engine := ⟨.new, rfl⟩
    obtain ⟨e, -, ran⟩ := Engine.answers_batchAt ailing.document.url p ailing.engine uses
    rw [ran] at selected
    dsimp only at selected
    exact List.mem_singleton.mp (Engine.mem_batchAt selected mem)
  have length : some batch.length = some (if p = .start then 0 else 1) := by
    have asked : (runOn (Engine.select (.str ailing.document.url) (.str p.name)) ailing.engine).1.toOption.map
        List.length = some (if p = .start then 0 else 1) := by cases p <;> decide +kernel
    rwa [selected] at asked
  have many : batch = List.replicate (if p = .start then 0 else 1) unwritten :=
    List.eq_replicate_iff.mpr ⟨Option.some.inj length, mem⟩
  rw [many]
  split <;> rfl

/-- Nothing is counted, recorded or left on that page: the first batch with the script breaks off at it, and the last
phase fails behind that. -/
theorem page_life_accounts_ailing :
    let s := ailing.live atHome [.attach, .loaded]
    ∃ n, ∀ m, n ≤ m →
      let t := (s.runUntil atHome (fun _ _ => false) m).2
      t.outcomes = [] ∧ t.runCount = 0 ∧ t.engine.store.clock = 0 := by
  intro s
  obtain ⟨-, closes⟩ := page_life_accounts unused_ailing (rfl : ailing.live atHome [.attach, .loaded] = s)
  obtain ⟨batch, selected, ⟨n, closed⟩, -⟩ := closes rfl rfl
  have known (p : Phase) : batch p = if p = .start then [] else [unwritten] := batch_ailing (selected p)
  refine ⟨n, fun m long => ?_⟩
  obtain ⟨e, lost, ⟨ended, broken⟩, closed⟩ := closed m long
  have early : e < 2 := by
    by_contra late
    have within : Phase.parsed ∈ Phase.order.take e :=
      List.take_subset_take_left _ (Nat.le_of_not_lt late) (by decide : Phase.parsed ∈ Phase.order.take 2)
    obtain ⟨u, os, -, done⟩ := ended .parsed within
    obtain ⟨f, breaks⟩ : ∃ f, u.BreaksOff atHome later [unwritten] [] f :=
      breaksOff_unwritten (by decide) later [] u
    rw [known] at done
    cases done.symm.trans ((runBatch_error_iff apart_later).mpr ⟨[], breaks⟩)
  obtain rfl : lost = [] := by
    rcases broken with ⟨-, none⟩ | ⟨p, -, u, before, f, -, breaks, made⟩
    · exact none
    · have single : (batch p).length ≤ 1 := by
        rw [known]
        split <;> decide
      have short := length_of_breaksOff breaks
      obtain rfl : before = [] := List.eq_nil_of_length_eq_zero (by omega)
      exact (Except.ok.inj made).symm
  have none : (s.runUntil atHome (fun _ _ => false) m).2.outcomes = [] := by
    rw [← List.map_eq_nil_iff, closed.outcomes, List.map_eq_nil_iff]
    obtain rfl | rfl : e = 0 ∨ e = 1 := by omega
    · rfl
    · exact (List.append_nil _).trans (known .start)
  refine ⟨none, ?_, ?_⟩
  · rw [closed.runCount, none]
    rfl
  · rw [closed.clock, none]
    rfl

end Userscript.Session
