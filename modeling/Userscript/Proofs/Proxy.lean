import Userscript.Proofs.Session.Markup
import Userscript.Proofs.Session.Tally
import Userscript.Proofs.Text.Pieces
import Userscript.Proxy

/-!
# Userscript.Proofs.Proxy

What the proxy does to a response.

Between reading a page and writing it scripts run in three phases, batches may not come, and the styles that scripts
added may give no markup. Nothing of the response is written before all that is over, and then all of it at once.

* `Counted` is what is known of a page when its response is written, and `counted_live`: it holds for every bridge,
  batch and URL, also when a batch breaks off;
* `render_of_bare`: a page without styles and badge is written as it was read;
* `response_whole_or_untouched`: a response is rewritten as a whole, or it goes on as it came.
-/

namespace Userscript

open Session (Round Move)

namespace Session

variable {σ : Type} {set : Setting σ} {s : Session σ} {e d : Nat} {lost : List Outcome}

/-! ## Rendering -/

theorem account_render (set : Setting σ) (html : String) (s : Session σ) :
    (s.render set html).2.account = s.account :=
  andThen_keeps (P := fun t => t.account = s.account)
    (elementTexts_keeps (P := fun t => t.account = s.account) (fun _ x t same => (account_act x t).trans same) rfl)
    fun _ _ same => same

/-- A page without styles and badge is written as it was read. -/
theorem render_of_bare (set : Setting σ) (html : String) (bare : s.document.styles = [])
    (hidden : s.document.indicator.visible = false) : (s.render set html).1 = .ok html := by
  have none : Comes (s.elementTexts set) s (s.document.styles.mapM s.memory.elementOf?) :=
    comes_elementTexts set (by rw [bare]; exact List.forall_mem_nil _)
  rw [bare] at none
  have texts : s.elementTexts set = (.ok [], s) := none
  have badge : s.document.indicator.render = "" := by
    rw [Page.Indicator.render, hidden]
    rfl
  rw [render_eq, texts]
  change Except.ok (Page.Document.renderWith [] s.document.indicator html) = .ok html
  rw [Page.Document.renderWith, badge]
  exact congrArg Except.ok String.ofList_toList

/-! ## Phases -/

/-- The rounds of a loaded page are those of the three phases, in order. -/
theorem Orderly.phases (h : Orderly e d s) (attached : s.attached = true) (complete : s.document.state = .complete) :
    s.rounds.map Round.phase = Phase.order := by
  have length : s.rounds.length = Phase.order.length := by
    rw [h.due, if_pos attached, complete]
    rfl
  refine List.ext_getElem? fun n => ?_
  rw [List.getElem?_map]
  cases found : s.rounds[n]? with
  | some r => exact (h.placed n r found).phase.symm
  | none =>
    rw [List.getElem?_eq_none_iff, length] at found
    exact (List.getElem?_eq_none found).symm

/-- What is known of a page of which three phases are due, given the outcomes of a batch that broke off: its rounds are
theirs, its outcomes are those of its rounds, all of them are counted, and when the last phase is over there will be no
others. -/
structure Counted (set : Setting σ) (badge : Page.Badge) (lost : List Outcome) (s : Session σ) : Prop where
  phases : s.rounds.map Round.phase = Phase.order
  recorded : s.Recorded
  tally : Tally badge lost s
  all : s.idle = true → (s.settle set).outcomes = s.outcomes

theorem Orderly.settle_outcomes (set : Setting σ) (h : Orderly e d s) (idle : s.idle = true) :
    (s.settle set).outcomes = s.outcomes := by
  have ended : d = Phase.order.length := of_decide_eq_true (h.idle.symm.trans idle)
  subst ended
  have kept : Orderly e Phase.order.length (s.settle set) ∧ (s.settle set).outcomes = s.outcomes :=
    settle_keeps (P := fun t => Orderly e Phase.order.length t ∧ t.outcomes = s.outcomes)
      (fun t ⟨order, same⟩ => ⟨(order.outcomes_turn set).1, (order.outcomes_turn set).2.trans same⟩) ⟨h, rfl⟩
  exact kept.2

end Session

namespace Proxy

variable {σ : Type} {c : Config} {f : Flow} {r : Response}

/-! ## Pages on their way -/

/-- A page on its way that is loaded, before any phase had its turn. -/
def loaded (c : Config) (f : Flow) (p : Proxy σ) : Session σ := (p.page c f).attach.finishParsing.finishLoading

/-- The run of a page on its way: the engine is attached, the page is loaded, and so many jobs are done. -/
def stay (set : Setting σ) (n : Nat) : List (Move σ) :=
  [.attach, .parsed, .loaded] ++ List.replicate n (.turn set.bridge 0)

theorem live_eq (set : Setting σ) (c : Config) (f : Flow) (p : Proxy σ) :
    live set (p.page c f) = ((p.loaded c f).waitIdle set).2 := rfl

theorem live_eq_after (set : Setting σ) (c : Config) (f : Flow) (p : Proxy σ) :
    ∃ n, live set (p.page c f) = (p.page c f).after set (stay set n) := by
  obtain ⟨n, same⟩ : ∃ n, ((p.loaded c f).waitIdle set).2 =
      (p.loaded c f).after set (List.replicate n (.turn set.bridge 0)) := by
    unfold Session.waitIdle
    split
    · exact ⟨0, rfl⟩
    · exact Session.runUntil_eq_after set _ _ _
  refine ⟨n, ?_⟩
  rw [live_eq, same, stay, Session.after_append]
  rfl

theorem complete_live (set : Setting σ) (c : Config) (f : Flow) (p : Proxy σ) :
    (live set (p.page c f)).attached = true ∧ (live set (p.page c f)).document.state = .complete := by
  have loaded : (p.loaded c f).attached = true ∧ (p.loaded c f).document.state = .complete := ⟨rfl, rfl⟩
  rw [live_eq]
  refine Session.waitIdle_keeps (P := fun t => t.attached = true ∧ t.document.state = .complete) ?_ loaded
  rintro t ⟨attached, complete⟩
  have page := Session.page_turn set 0 t
  exact ⟨(congrArg (·.2.2.2.1) page).trans attached, (congrArg (·.2.1) page).trans complete⟩

theorem woken_loaded (c : Config) (f : Flow) (p : Proxy σ) : Session.Woken (p.loaded c f) := by
  change ∀ j ∈ [Session.Job.round 0, .round 1, .round 2], j.wakes = true → _
  simp [Session.Job.wakes]

/-- Whatever the bridge answers, and whether a batch breaks off or not. -/
theorem counted_live (set : Setting σ) (c : Config) (f : Flow) (p : Proxy σ) :
    ∃ n lost, live set (p.page c f) = (p.page c f).after set (stay set n) ∧
      (lost = [] ∨ ∃ q, Session.BreaksIn set q lost (p.page c f) (stay set n)) ∧
      Session.Counted set c.badge lost (live set (p.page c f)) := by
  have fresh : Session.Fresh (p.page c f) := ⟨.inl rfl, rfl, rfl, rfl, rfl, rfl, rfl, rfl⟩
  have first : Session.Tally c.badge [] (p.page c f) :=
    ⟨rfl, ⟨rfl, rfl, fun some => absurd some (Nat.lt_irrefl 0), rfl⟩⟩
  obtain ⟨n, lives⟩ := live_eq_after set c f p
  obtain ⟨e, d, lost, history, recorded, tally⟩ := Session.tally_after set fresh rfl first (stay set n)
  have order := history.orderly
  rw [← lives] at order recorded tally
  obtain ⟨attached, complete⟩ := complete_live set c f p
  refine ⟨n, lost, lives, ?_, order.phases attached complete, recorded, tally, order.settle_outcomes set⟩
  rcases Nat.eq_or_lt_of_le order.well_le with whole | failed
  · exact .inl (history.none whole)
  · obtain ⟨q, -, breaks⟩ := history.broken failed
    exact .inr ⟨q, breaks⟩

theorem idle_live (set : Setting σ) (c : Config) (f : Flow) (p : Proxy σ)
    (ended : ((p.loaded c f).waitIdle set).1 = true) : (live set (p.page c f)).idle = true := by
  rw [live_eq]
  exact Session.idle_of_waitIdle set (woken_loaded c f p) ended

/-! ## Responses -/

/-- The text of a response, if it is text in its charset. -/
def Response.text? (r : Response) : Option String := Body.text? r.kind r.body

/-- A response with markup for its text, and the header that counts the runs. -/
def Response.withMarkup (r : Response) (markup : String) (runs : Nat) : Response :=
  { r with body := Body.ofText r.kind markup, runs := some runs }

/-- What is written of a text is read back as that text. -/
def Body.Keeps (contentType text : String) : Prop := text? contentType (ofText contentType text) = some text

theorem Response.text?_withMarkup {markup : String} {runs : Nat} (keeps : Body.Keeps r.kind markup) :
    (r.withMarkup markup runs).text? = some markup := by
  unfold Body.Keeps Response.kind at keeps
  simp only [Response.text?, Response.kind, Response.withMarkup, keeps]

/-- A flow whose response is taken through a page: a page that is asked for from the web, and that is not too large. -/
structure Wanted (c : Config) (f : Flow) (r : Response) : Prop where
  method : Text.upper f.method = "GET"
  web : Url.isWeb f.url = true
  markup : "text/html".toList <:+: (Text.lower r.kind).toList
  short : (r.body.length : Int) ≤ c.proxy.largestPage

theorem wants_iff (came : f.response = some r) : wants c f = true ↔ Wanted c f r := by
  have page : r.isPage c = true ↔
      "text/html".toList <:+: (Text.lower r.kind).toList ∧ (r.body.length : Int) ≤ c.proxy.largestPage := by
    rw [Response.isPage, Bool.and_eq_true, Text.holds_iff, decide_eq_true_iff]
  rw [wants, came, Option.any_some, Bool.and_eq_true, Bool.and_eq_true, page, decide_eq_true_iff]
  constructor
  · rintro ⟨⟨method, web⟩, markup, short⟩
    exact ⟨method, web, markup, short⟩
  · rintro ⟨method, web, markup, short⟩
    exact ⟨⟨method, web⟩, markup, short⟩

theorem handle_of_not_wanted (set : Setting σ) (p : Proxy σ) (came : f.response = some r) (not : ¬ Wanted c f r) :
    (handle set c f p).1 = f := by
  rw [← wants_iff came] at not
  simp only [handle, came, if_neg not]

theorem handle_of_wanted (set : Setting σ) (p : Proxy σ) (came : f.response = some r) (wanted : Wanted c f r) :
    (handle set c f p).1 = { f with response := some (handlePage set c f r p).1 } := by
  rw [← wants_iff came] at wanted
  simp only [handle, came, if_pos wanted]

/-- The response after its page lived: as it came, or with all that is written of it. -/
theorem rewritten_fst (set : Setting σ) (f : Flow) (r : Response) (original : String) (s : Session σ) :
    (rewritten set f r original s).1 =
      match (s.render set original).1 with
      | .ok markup => r.withMarkup markup s.runCount
      | .error _ => r := by
  have same : (s.render set original).2.runCount = s.runCount :=
    congrArg Session.Account.runCount (Session.account_render set original s)
  unfold rewritten
  split
  · next rendered =>
    rw [rendered] at same
    rw [rendered, ← same]
    rfl
  · next rendered =>
    rw [rendered]

/-- The response of a page: as it came when its body is no text, or else as it is after the page lived. -/
theorem handlePage_fst (set : Setting σ) (c : Config) (f : Flow) (r : Response) (p : Proxy σ) :
    (handlePage set c f r p).1 =
      match r.text? with
      | none => r
      | some original => (rewritten set f r original (live set (p.page c f))).1 := by
  cases read : r.text? with
  | none =>
    have read : Body.text? r.kind r.body = none := read
    simp only [handlePage, read]
  | some original =>
    have read : Body.text? r.kind r.body = some original := read
    simp only [handlePage, read]

/-- What becomes of a flow with a response, whatever the bridge and the scripts do.

If it is not wanted, it goes on as it came. If it is, it goes on as it came when its body is no text, or the styles
of its page give no markup; otherwise its text is the markup of its page, and its header tells how many outcomes of
the three phases are good, those of a batch that broke off among them. A page that has no style and no such outcome
gives the text that was read. -/
theorem response_whole_or_untouched (set : Setting σ) (c : Config) (f : Flow) (p : Proxy σ)
    (came : f.response = some r) :
    let f' := (handle set c f p).1
    let t := live set (p.page c f)
    (¬ Wanted c f r → f' = f) ∧
    (∃ n lost, t = (p.page c f).after set (stay set n) ∧
      (lost = [] ∨ ∃ q, Session.BreaksIn set q lost (p.page c f) (stay set n)) ∧
      (Wanted c f r →
        (f' = f ∧ (r.text? = none ∨ ∃ original u, r.text? = some original ∧ (t.render set original).1 = .error u)) ∨
        ∃ original markup, let r' := r.withMarkup markup ((t.outcomes ++ lost).countP Outcome.ok)
          r.text? = some original ∧ (t.render set original).1 = .ok markup ∧ f' = { f with response := some r' } ∧
          (Body.Keeps r.kind markup → r'.text? = some markup) ∧
          (t.document.styles = [] → (∀ o ∈ t.outcomes ++ lost, o.ok = false) → markup = original))) ∧
    t.rounds.map Round.phase = Phase.order ∧ t.outcomes = t.rounds.flatMap Round.outcomes ∧
    (((p.loaded c f).waitIdle set).1 = true → t.idle = true) ∧
    (t.idle = true → (t.settle set).outcomes = t.outcomes) := by
  intro f' t
  obtain ⟨n, lost, lives, broken, counted⟩ := counted_live set c f p
  have waited : ((p.loaded c f).waitIdle set).1 = true → t.idle = true := idle_live set c f p
  have written (original : String) (read : r.text? = some original) :
      (handlePage set c f r p).1 = match (t.render set original).1 with
        | .ok markup => r.withMarkup markup t.runCount
        | .error _ => r :=
    by rw [handlePage_fst, read]; exact rewritten_fst set f r original t
  have handled (wanted : Wanted c f r) : f' = { f with response := some (handlePage set c f r p).1 } :=
    handle_of_wanted set p came wanted
  have untouched : ({ f with response := some r } : Flow) = f := by rw [← came]
  have lives : t = (p.page c f).after set (stay set n) := lives
  have counted : Session.Counted set c.badge lost t := counted
  -- From here on the page is any page that was counted, and how it lived does not matter.
  clear_value t
  obtain ⟨phases, recorded, tally, all⟩ := counted
  refine ⟨handle_of_not_wanted set p came, ⟨n, lost, lives, broken, fun wanted => ?_⟩, phases, recorded, waited, all⟩
  cases read : r.text? with
  | none =>
    left
    rw [handled wanted, handlePage_fst, read]
    exact ⟨untouched, .inl rfl⟩
  | some original =>
    have handled := handled wanted
    rw [written original read] at handled
    cases rendered : (t.render set original).1 with
    | error u =>
      left
      rw [rendered] at handled
      exact ⟨handled.trans untouched, .inr ⟨original, u, rfl, rendered⟩⟩
    | ok markup =>
      right
      rw [rendered, tally.runCount] at handled
      refine ⟨original, markup, rfl, rendered, handled, Response.text?_withMarkup, fun bare none => ?_⟩
      -- Without a good outcome the badge is not seen, and without it and styles there is nothing to put in.
      have hidden : t.document.indicator.visible = false := by
        have zero : t.runCount = 0 := by
          rw [tally.runCount, List.countP_eq_zero]
          exact fun o mem => by rw [none o mem]; exact Bool.false_ne_true
        rw [Bool.eq_false_iff, ne_eq, tally.shows.visible_iff]
        exact fun ⟨_, positive, _⟩ => Nat.ne_of_gt positive zero
      exact Except.ok.inj (rendered.symm.trans (Session.render_of_bare set original bare hidden))

/-- A response with a page in its body. -/
def greeting : Response := { contentType := some "Text/HTML; charset=utf-8", body := Text.utf8 "<p>H\u00E9!</p>" }

def visiting : Flow := { url := "http://a.example/", method := "get", response := some greeting }

/-- A proxy that has taken nothing yet. -/
def unused : Proxy Unit := { storage := { quota := 1024 }, engine := () }

/-- A bridge that answers after a while, and refuses the second phase. -/
def refusing : Setting Unit where
  bridge.select _ p _ := (if p = .parsed then .error (.badValue "down") else .ok [], [], ())
  bridge.laps _ := 1
  bridge.report _ _ _ := (.ok (), ())

/-- A batch without scripts does not break off. -/
theorem not_breaksIn_refusing (q : Phase) (lost : List Outcome) (s : Session Unit) (n : Nat) :
    ¬ Session.BreaksIn refusing q lost s (stay refusing n) := by
  rintro ⟨before, m, rest, cut, @⟨bridge, i, -, -, @⟨scripts, _, u, f, ⟨log, engine, answered, -⟩, broken, -, -⟩⟩⟩
  have mem : Move.turn bridge i ∈ stay refusing n := by
    rw [cut]
    exact List.mem_append_right _ List.mem_cons_self
  obtain ⟨-, rfl, -⟩ : n ≠ 0 ∧ bridge = refusing.bridge ∧ i = 0 := by
    simpa [stay, List.mem_replicate] using mem
  have answer := congrArg Prod.fst answered
  change (if q = .parsed then _ else _) = Except.ok scripts at answer
  split at answer
  · cases answer
  · cases answer
    cases broken with
    | nowhere some => exact some rfl
    | wordless _ cut => simp at cut

/-- Of three batches one is refused and the others are empty: the header counts no run, and the text is what it was. -/
theorem response_whole_or_untouched_refused :
    let f' := (handle refusing {} visiting unused).1
    Wanted {} visiting greeting ∧ f' = { visiting with response := some { greeting with runs := some 0 } } ∧
      f'.response.bind Response.text? = greeting.text? := by
  have wanted : Wanted {} visiting greeting :=
    ⟨by decide +kernel, by decide +kernel, by decide +kernel, by decide +kernel⟩
  have read : greeting.text? = some "<p>H\u00E9!</p>" := by decide +kernel
  have bare : (live refusing (page {} visiting unused)).document.styles = [] := by decide +kernel
  have none : (live refusing (page {} visiting unused)).outcomes = [] := by decide +kernel
  have hidden : (live refusing (page {} visiting unused)).document.indicator.visible = false := by decide +kernel
  have whole := response_whole_or_untouched refusing {} visiting unused (r := greeting) rfl
  dsimp only at whole ⊢
  generalize live refusing (page {} visiting unused) = t at whole bare none hidden
  generalize (handle refusing {} visiting unused).1 = f' at whole ⊢
  obtain ⟨-, ⟨n, lost, -, broken, handled⟩, -⟩ := whole
  obtain rfl : lost = [] := by
    rcases broken with whole | ⟨q, breaks⟩
    · exact whole
    · exact absurd breaks (not_breaksIn_refusing q lost _ n)
  rcases handled wanted with ⟨-, unread | ⟨original, u, -, failed⟩⟩ |
    ⟨original, markup, text, -, rewritten, keeps, plain⟩
  · cases unread.symm.trans read
  · cases failed.symm.trans (Session.render_of_bare _ original bare hidden)
  · obtain rfl := plain bare (by rw [none]; exact List.forall_mem_nil _)
    obtain rfl := Option.some.inj (text.symm.trans read)
    rw [none, List.nil_append, List.countP_nil] at rewritten keeps
    have same : greeting.withMarkup "<p>H\u00E9!</p>" 0 = { greeting with runs := some 0 } := by decide +kernel
    have back : Body.Keeps greeting.kind "<p>H\u00E9!</p>" := by
      unfold Body.Keeps
      decide +kernel
    rw [rewritten, read, Option.bind_some]
    exact ⟨wanted, congrArg (fun r => { visiting with response := some r }) same, keeps back⟩

end Proxy
end Userscript
