import Userscript.Proofs.Session.Chain

/-!
# Userscript.Proofs.Session.Orderly

A page with the engine, at any moment: how far it is loaded, what listens to its events, and how many rounds it
has fit together.

* `page_work`: no job moves the page;
* `Orderly` is the invariant: the chain of the rounds, one for each phase that is due, and a listener for each
  phase that is not;
* `Orderly.attach`, `Orderly.finishParsing` and `Orderly.finishLoading`: what happens to the page keeps it.
-/

namespace Userscript.Session

open Page

variable {σ : Type} {set : Setting σ} {e d n : Nat} {s t : Session σ} {p : Phase}

/-! ## The page -/

/-- How far a page is, what listens to it, whether it is attached, and how many rounds it has. -/
def page (s : Session σ) : String × ReadyState × List (String × Phase) × Bool × Nat :=
  (s.document.url, s.document.state, s.document.listeners, s.attached, s.rounds.length)

theorem page_of_course (same : t.course = s.course) : t.page = s.page :=
  congrArg (fun c => (c.url, c.state, c.listeners, c.attached, c.rounds.length)) same

theorem page_setRound (f : Round → Round) (s : Session σ) : (s.setRound n f).page = s.page := by
  rw [page, setRound, List.length_modify]
  rfl

theorem page_finish (stand : Stand) (s : Session σ) : (s.finish n stand).page = s.page := by
  simp only [finish, foldl_push]
  split
  · simp only [page, setStand, setRound, push, List.length_modify]
  · simp only [page, setStand, setRound, List.length_modify]

theorem page_runRound (set : Setting σ) (n : Nat) (p : Phase) (s : Session σ) : (s.runRound set n p).page = s.page := by
  have runs := runsRound set n p s
  generalize s.runRound set n p = t at runs ⊢
  cases runs with
  | refused _ course | broken _ _ course => exact (page_finish _ _).trans (page_of_course course)
  | ran _ _ course =>
    exact (page_finish _ _).trans
      (congrArg (fun c => (c.url, c.state, c.listeners, c.attached, c.rounds.length)) course)

theorem page_ask (set : Setting σ) (n : Nat) (p : Phase) (s : Session σ) : (s.ask set n p).page = s.page := by
  have asking : (s.asking n p).page = s.page := page_setRound _ _
  rw [ask_eq]
  split
  · exact (page_runRound set n p (s.asking n p)).trans asking
  · exact asking

theorem page_advance (set : Setting σ) (n : Nat) (s : Session σ) : (s.advance set n).page = s.page := by
  unfold advance
  split
  · rfl
  · split
    · exact page_setRound (fun r => { r with yields := false }) s
    · split
      · exact page_ask set n _ s
      · exact page_ask set n _ s
      · exact page_finish _ _
      · exact page_setRound _ _

theorem page_work (set : Setting σ) (j : Job) (s : Session σ) : (s.work set j).page = s.page := by
  cases j with
  | round n => exact page_advance set n s
  | answer n laps =>
    cases laps with
    | zero =>
      simp only [work]
      split
      · exact page_runRound set n _ s
      · rfl
    | succ laps => rfl
  | report o => exact page_of_course (course_deliver o s)
  | request a details => exact page_of_course (course_perform details s)
  | wake => rfl

/-! ## The invariant -/

/-- How many phases are due on a page. -/
def dueIn : ReadyState → Nat
  | .loading => 1
  | .interactive => 2
  | .complete => 3
  | .other _ => 0

/-- What holds at every moment of a page of which `d` rounds are over, the first `e` of them without a failure. -/
structure Orderly (e d : Nat) (s : Session σ) : Prop extends Chain e d s where
  known : dueIn s.document.state ≠ 0
  due : s.rounds.length = if s.attached then dueIn s.document.state else 0
  unheard : s.attached = false → s.document.listeners = []
  onParsed : s.attached = true → s.document.state = .loading → s.document.heard parsedEvent = [.parsed]
  onLoaded : s.attached = true → s.document.state ≠ .complete → s.document.heard loadedEvent = [.idle]

namespace Orderly

theorem of_page {e' d' : Nat} (h : Orderly e d s) (chain : Chain e' d' t) (same : t.page = s.page) :
    Orderly e' d' t := by
  simp only [page, Prod.mk.injEq] at same
  obtain ⟨-, state, listeners, attached, length⟩ := same
  obtain ⟨-, known, due, unheard, onParsed, onLoaded⟩ := h
  refine ⟨chain, ?_, ?_, ?_, ?_, ?_⟩
  · rw [state]
    exact known
  · rw [length, attached, state]
    exact due
  · rw [attached, listeners]
    exact unheard
  · rw [attached, state, Document.heard, listeners]
    exact onParsed
  · rw [attached, state, Document.heard, listeners]
    exact onLoaded

end Orderly

/-! ## What happens to a page -/

theorem length_due (p : Phase) (s : Session σ) : (s.due p).rounds.length = s.rounds.length + 1 :=
  List.length_append

theorem Chain.due (h : Chain e d s) {p : Phase} (next : Phase.order[s.rounds.length]? = some p) :
    Chain e d (s.due p) :=
  h.schedule next _

theorem Chain.listen (h : Chain e d s) (event : String) (p : Phase) :
    Chain e d { s with document := s.document.listen event p } :=
  h.congr rfl (List.Perm.refl _)

/-- A page to which the engine was just attached, before anything listens. -/
def started (s : Session σ) : Session σ := { s with attached := true }.due .start

theorem attach_of_loading (new : s.attached = false) (state : s.document.state = .loading) :
    s.attach = { started s with
      document := (s.document.listen parsedEvent .parsed).listen loadedEvent .idle } := by
  simp [Session.attach, new, dueOn, started, Session.due, schedule, Document.listen, state]

theorem attach_of_interactive (new : s.attached = false) (state : s.document.state = .interactive) :
    s.attach = { (started s).due .parsed with document := s.document.listen loadedEvent .idle } := by
  simp [Session.attach, new, dueOn, started, Session.due, schedule, Document.listen, state]

theorem attach_of_complete (new : s.attached = false) (state : s.document.state = .complete) :
    s.attach = ((started s).due .parsed).due .idle := by
  simp [Session.attach, new, dueOn, started, Session.due, schedule, state]

theorem through_cons (m : Milestone) (rest : List Milestone) (s : Session σ) :
    s.through (m :: rest) = (s.through [m]).through rest := rfl

/-- A page that reached a milestone, before anything that listens is called. -/
def reached (m : Milestone) (s : Session σ) : Session σ :=
  { s with document := { s.document with state := m.state } }

theorem through_of_heard {m : Milestone} {phases : List Phase} (heard : s.document.heard m.event = phases) :
    s.through [m] = phases.foldl (fun s p => s.due p) (s.reached m) := by
  rw [← heard]
  rfl

theorem state_foldl_due (phases : List Phase) (s : Session σ) :
    (phases.foldl (fun s p => s.due p) s).document.state = s.document.state := by
  induction phases generalizing s with
  | nil => rfl
  | cons p rest ih => exact ih (s.due p)

/-- What a phase that comes due keeps, and a change of how far the page is or of what listens, attaching keeps. -/
theorem attach_keeps {P : Session σ → Prop} (due : ∀ p s, P s → P (s.due p))
    (page : ∀ attached state listeners (s : Session σ), P s →
      P { s with attached, document := { s.document with state, listeners } }) (h : P s) : P s.attach := by
  have dueOn (now : Bool) (event : String) (p : Phase) (s : Session σ) (h : P s) : P (s.dueOn now event p) := by
    unfold Session.dueOn
    split
    · exact due p s h
    · exact page s.attached s.document.state _ s h
  unfold Session.attach
  split
  · exact h
  · have attached : P { s with attached := true } := page true s.document.state s.document.listeners s h
    exact dueOn _ _ _ _ (dueOn _ _ _ _ (due .start _ attached))

theorem through_keeps {P : Session σ → Prop} (due : ∀ p s, P s → P (s.due p))
    (page : ∀ attached state listeners (s : Session σ), P s →
      P { s with attached, document := { s.document with state, listeners } }) (milestones : List Milestone) (h : P s) :
    P (s.through milestones) := by
  have all (phases : List Phase) (s : Session σ) (h : P s) : P (phases.foldl (fun s p => s.due p) s) := by
    induction phases generalizing s with
    | nil => exact h
    | cons p rest ih => exact ih _ (due p s h)
  induction milestones generalizing s with
  | nil => exact h
  | cons m rest ih =>
    rw [through_cons, through_of_heard rfl]
    exact ih (all _ _ (page s.attached m.state s.document.listeners s h))

namespace Orderly

theorem length_started (h : Orderly e d s) (new : s.attached = false) : (started s).rounds.length = 1 := by
  have none : s.rounds.length = 0 := by
    rw [h.due, new]
    rfl
  exact (length_due _ _).trans (congrArg (· + 1) none)

theorem chain_started (h : Orderly e d s) (new : s.attached = false) : Chain e d (started s) := by
  have none : s.rounds.length = 0 := by
    rw [h.due, new]
    rfl
  have attached : Chain e d { s with attached := true } := h.toChain.congr rfl (List.Perm.refl _)
  exact attached.due (congrArg (Phase.order[·]?) none)

theorem attach_loading (h : Orderly e d s) (new : s.attached = false) (state : s.document.state = .loading) :
    Orderly e d s.attach := by
  have first := h.chain_started new
  have silent := h.unheard new
  rw [attach_of_loading new state]
  refine ⟨(first.listen _ _).listen _ _, h.known, ?_, ?_, ?_, ?_⟩
  · change (started s).rounds.length = dueIn s.document.state
    rw [h.length_started new, state]
    rfl
  · exact fun not => absurd not Bool.true_eq_false.mp
  · intro _ _
    simp [Document.heard, Document.listen, silent, parsedEvent, loadedEvent]
  · intro _ _
    simp [Document.heard, Document.listen, silent, parsedEvent, loadedEvent]

theorem attach_interactive (h : Orderly e d s) (new : s.attached = false)
    (state : s.document.state = .interactive) : Orderly e d s.attach := by
  have one := h.length_started new
  have second : Chain e d ((started s).due .parsed) := (h.chain_started new).due (congrArg (Phase.order[·]?) one)
  have silent := h.unheard new
  rw [attach_of_interactive new state]
  refine ⟨second.listen _ _, h.known, ?_, ?_, ?_, ?_⟩
  · change ((started s).due .parsed).rounds.length = dueIn s.document.state
    rw [length_due, one, state]
    rfl
  · exact fun not => absurd not Bool.true_eq_false.mp
  · intro _ loading
    exact absurd (state.symm.trans loading) (by decide)
  · intro _ _
    simp [Document.heard, Document.listen, silent, loadedEvent]

theorem attach_complete (h : Orderly e d s) (new : s.attached = false)
    (state : s.document.state = .complete) : Orderly e d s.attach := by
  have one := h.length_started new
  have two : ((started s).due .parsed).rounds.length = 2 := by rw [length_due, one]
  have second : Chain e d ((started s).due .parsed) := (h.chain_started new).due (congrArg (Phase.order[·]?) one)
  have third : Chain e d (((started s).due .parsed).due .idle) := second.due (congrArg (Phase.order[·]?) two)
  rw [attach_of_complete new state]
  refine ⟨third, h.known, ?_, ?_, ?_, ?_⟩
  · change (((started s).due .parsed).due .idle).rounds.length = dueIn s.document.state
    rw [length_due, two, state]
    rfl
  · exact fun not => absurd not Bool.true_eq_false.mp
  · intro _ loading
    exact absurd (state.symm.trans loading) (by decide)
  · exact fun _ not => absurd state not

theorem attach (h : Orderly e d s) : Orderly e d s.attach := by
  cases new : s.attached with
  | true =>
    rw [Session.attach, if_pos new]
    exact h
  | false =>
    cases state : s.document.state with
    | loading => exact h.attach_loading new state
    | interactive => exact h.attach_interactive new state
    | complete => exact h.attach_complete new state
    | other word =>
      have known := h.known
      rw [state] at known
      exact absurd rfl known

/-- The page passes a milestone: what is due then is put behind the others. -/
theorem pass (h : Orderly e d s) {m : Milestone} (next : dueIn m.state = dueIn s.document.state + 1)
    (at_p : Phase.order[dueIn s.document.state]? = some p)
    (heard : s.attached = true → s.document.heard m.event = [p])
    (later : s.attached = true → m.state ≠ .complete → s.document.heard loadedEvent = [.idle]) :
    Orderly e d (s.through [m]) := by
  have known : dueIn m.state ≠ 0 := by omega
  -- A milestone is a step further, so no page is loading after one.
  have notLoading : m.state ≠ .loading := by
    intro loading
    rw [loading] at next
    exact h.known (Nat.succ.inj next).symm
  have chain : Chain e d (s.reached m) := h.toChain.congr rfl (List.Perm.refl _)
  have due := h.due
  by_cases attached : s.attached = true
  · rw [if_pos attached] at due
    rw [through_of_heard (heard attached)]
    refine ⟨chain.due ?_, known, ?_, h.unheard, ?_, later⟩
    · rw [← due] at at_p
      exact at_p
    · change ((s.reached m).due p).rounds.length = if s.attached then dueIn m.state else 0
      rw [length_due, if_pos attached, next, ← due]
      rfl
    · exact fun _ loading => absurd loading notLoading
  · rw [if_neg attached] at due
    have silent : s.document.heard m.event = [] := by
      rw [Document.heard, h.unheard (Bool.eq_false_iff.mpr attached)]
      rfl
    rw [through_of_heard silent]
    refine ⟨chain, known, ?_, h.unheard, ?_, later⟩
    · change s.rounds.length = if s.attached then dueIn m.state else 0
      rw [if_neg attached]
      exact due
    · exact fun _ loading => absurd loading notLoading

theorem finishParsing (h : Orderly e d s) : Orderly e d s.finishParsing := by
  rw [Session.finishParsing, Document.toParsed]
  split
  · next loading =>
    refine h.pass ?_ ?_ (fun attached => h.onParsed attached loading) ?_
    · rw [loading]
      rfl
    · rw [loading]
      rfl
    · intro attached _
      exact h.onLoaded attached (by rw [loading]; decide)
  · exact h

/-- The last milestone of a page whose source is read. -/
theorem pass_loaded (h : Orderly e d s) (state : s.document.state = .interactive) :
    Orderly e d (s.through [.loaded]) := by
  refine h.pass (p := .idle) ?_ ?_ ?_ ?_
  · rw [state]
    rfl
  · rw [state]
    rfl
  · intro attached
    exact h.onLoaded attached (by rw [state]; decide)
  · exact fun _ not => absurd rfl not

theorem finishLoading (h : Orderly e d s) : Orderly e d s.finishLoading := by
  rw [Session.finishLoading, Document.toLoaded]
  cases state : s.document.state with
  | loading =>
    have parsed := h.finishParsing
    have passed : s.finishParsing = s.through [.parsed] := by
      rw [Session.finishParsing, Document.toParsed, if_pos state]
    have now : s.finishParsing.document.state = .interactive := by
      rw [passed, through_of_heard rfl]
      exact state_foldl_due _ _
    rw [if_neg (by decide), Document.toParsed, if_pos state, List.singleton_append, through_cons, ← passed]
    exact parsed.pass_loaded now
  | interactive =>
    rw [if_neg (by decide), Document.toParsed, state, if_neg (by decide)]
    exact h.pass_loaded state
  | complete =>
    rw [if_pos rfl]
    exact h
  | other word =>
    have known := h.known
    rw [state] at known
    exact absurd rfl known

end Orderly

end Userscript.Session
