import Userscript.Proofs.Catalog.Reading
import Userscript.Proofs.Eligibility
import Userscript.Selection

/-!
# Userscript.Proofs.Selection

The batches of a page and the verdicts on its scripts are two views of one decision.

* `Uses` is an engine in use: what its matcher is, and what its store holds; no call changes either;
* `answers_explain` and `answers_select` are both answers, said without a matcher and without a store;
* `Phase.deliveredAt` is the table of when a script is delivered, and `applies_eq`: the phases keep to it;
* `select_eq_runnable`: a batch is what the verdicts mark runnable and the phase admits, in catalog order.
-/

namespace Userscript

open Eligibility Glob

/-! ## Reading -/

abbrev Contents := Except Fault (List Script × Settings)

/-- What an engine reads in a store: the catalog and the settings, or the first fault as it tells it. -/
def Catalog.Store.contents (s : Catalog.Store) : Contents := do
  let scripts ← s.catalogIn.mapError Engine.readFault
  let settings ← s.settingsIn.mapError Engine.readFault
  return (scripts, settings)

/-- A store once an engine has read the catalog and, if it got that, the settings. -/
def Catalog.Store.consulted (s : Catalog.Store) : Catalog.Store :=
  match runOn catalog s with
  | (.ok _, t) => (runOn settings t).2
  | (.error _, t) => t

theorem Catalog.Store.alike_consulted (s : Catalog.Store) : s.Alike s.consulted := by
  have first := s.alike_catalog
  rw [consulted]
  split
  · next scripts t ran =>
    rw [ran] at first
    exact first.trans t.alike_settings
  · next f t ran =>
    rw [ran] at first
    exact first

namespace Engine

variable {limits : Limits} {contents : Contents} {url : String}

/-- An engine in use, with a matcher under limits and a store that holds what is read. -/
def Uses (limits : Limits) (contents : Contents) (e : Engine) : Prop :=
  e.matcher.Reached limits ∧ e.store.contents = contents

theorem runOn_onStore {α : Type} (work : Catalog.Store.Work α) (e : Engine) :
    runOn (onStore work) e = ((runOn work e.store).1, { e with store := (runOn work e.store).2 }) := rfl

theorem runOn_onMatcher {α : Type} (work : Matching α) (e : Engine) :
    runOn (onMatcher work) e = ((runOn work (e.matcher, e.log)).1,
      { e with matcher := (runOn work (e.matcher, e.log)).2.1, log := (runOn work (e.matcher, e.log)).2.2 }) := rfl

/-- A read of the store, whose fault is told as the engine tells it. -/
theorem runOn_read {α : Type} (work : Catalog.Store.Work α) (e : Engine) :
    runOn (tryCatch (onStore work) fun f => throw (readFault f)) e =
      ((runOn work e.store).1.mapError readFault, { e with store := (runOn work e.store).2 }) := by
  rw [runOn_tryCatch, runOn_onStore]
  cases (runOn work e.store).1 <;> rfl

theorem contents_of_alike {s t : Catalog.Store} (h : s.Alike t) : t.contents = s.contents := by
  rw [Catalog.Store.contents, Catalog.Store.contents, h.1, h.2]

/-- The engine gets what its store holds; all that is done to it is to the store. -/
theorem runOn_load (e : Engine) : runOn load e = (e.store.contents, { e with store := e.store.consulted }) := by
  have later : e.store.settingsIn = (runOn Catalog.Store.settings (runOn Catalog.Store.catalog e.store).2).1 :=
    e.store.alike_catalog.2.symm
  rw [load, runOn_bind, runOn_read, Catalog.Store.contents, Catalog.Store.catalogIn, later, Catalog.Store.consulted]
  rcases runOn Catalog.Store.catalog e.store with ⟨f | scripts, first⟩
  · rfl
  · simp only [Except.mapError, runOn_bind, runOn_read]
    rcases runOn Catalog.Store.settings first with ⟨f | settings, second⟩ <;> rfl

/-- What the engine gets is left as it is. -/
theorem answers_load : Answers (Uses limits contents) load contents := by
  rintro e ⟨used, rfl⟩
  refine ⟨{ e with store := e.store.consulted }, ⟨used, ?_⟩, runOn_load e⟩
  exact contents_of_alike e.store.alike_consulted

theorem answers_onMatcher {α : Type} {work : Matching α} {r : Except Fault α}
    (h : Answers (InUse limits) work r) : Answers (Uses limits contents) (onMatcher work) r := by
  rintro e ⟨used, holds⟩
  obtain ⟨t, used', ran⟩ := h (e.matcher, e.log) used
  refine ⟨{ e with matcher := t.1, log := t.2 }, ⟨used', holds⟩, ?_⟩
  rw [runOn_onMatcher, ran]

/-! ## Verdicts -/

def verdictOf (limits : Limits) (url obstacle : String) (s : Script) : Verdict where
  script := s
  decision := decision limits url s
  runnable := (decision limits url s).eligible && s.isEnabled && s.hasCode && obstacle = ""
  note := if !s.isEnabled then "disabled" else if !s.hasCode then "no code" else obstacle

/-- Why no script runs on a page, given the settings. -/
def obstacleOn (url : String) (settings : Settings) : String :=
  obstacle (Url.isWeb url) settings (Url.siteHost url)

theorem obstacleOn_eq_empty_iff {settings : Settings} : obstacleOn url settings = "" ↔
    Url.isWeb url = true ∧ settings.safeMode = false ∧ settings.isPaused (Url.siteHost url) = false := by
  rw [obstacleOn, obstacle]
  cases Url.isWeb url <;> cases settings.safeMode <;> cases settings.isPaused (Url.siteHost url) <;> simp

theorem answers_verdict (obstacle : String) (s : Script) :
    Answers (Uses limits contents) (verdict (.str url) obstacle s) (.ok (verdictOf limits url obstacle s)) := by
  refine (answers_onMatcher (answers_evaluate s)).bind_ok ?_
  exact .pure _

theorem answers_explain (url : String) : Answers (Uses limits contents) (explain (.str url))
    (contents.map fun c => c.1.map (verdictOf limits url (obstacleOn url c.2))) := by
  have all (scripts : List Script) (obstacle : String) :
      Answers (Uses limits contents) (scripts.mapM (verdict (.str url) obstacle))
        (.ok (scripts.map (verdictOf limits url obstacle))) := by
    have whole : (scripts.mapM fun s => Except.ok (verdictOf limits url obstacle s)) =
        (.ok (scripts.map (verdictOf limits url obstacle)) : Except Fault _) := List.mapM_pure
    rw [← whole]
    exact Answers.mapM (answers_verdict obstacle) scripts
  exact answers_load.bind fun c => all c.1 (obstacleOn url c.2)

/-! ## Batches -/

/-- Whether a script runs on a page in a phase. -/
def runsOn (limits : Limits) (url : String) (phase : Json) (s : Script) : Except Fault Bool :=
  if !s.isEnabled || !s.hasCode then .ok false
  else if !(decision limits url s).eligible then .ok false
  else Phase.applies s.runAt phase

theorem answers_runs (phase : Json) (s : Script) :
    Answers (Uses limits contents) (runs (.str url) phase s) (runsOn limits url phase s) := by
  rw [runs, runsOn]
  split
  · exact .pure false
  · refine (answers_onMatcher (answers_evaluate s)).bind_ok ?_
    split
    · exact .pure false
    · exact .lift _

/-- The batch of a page for a phase, given what a reader gets. -/
def batchOf (limits : Limits) (url : String) (phase : Json) (scripts : List Script) (settings : Settings) :
    Except Fault (List Script) :=
  if settings.safeMode then .ok []
  else if settings.isPaused (Url.siteHost url) then .ok []
  else scripts.filterM (runsOn limits url phase)

theorem answers_batch (phase : Json) (scripts : List Script) (settings : Settings) :
    Answers (Uses limits contents)
      (do
        if settings.safeMode then return []
        if settings.isPaused (← Url.Given.siteHost (.str url)) then return []
        scripts.filterM (runs (.str url) phase))
      (batchOf limits url phase scripts settings) := by
  rw [batchOf]
  split
  · exact .pure []
  · refine (Answers.lift _).bind_ok (a := Url.siteHost url) ?_
    split
    · exact .pure []
    · exact Answers.filterM (answers_runs phase) scripts

/-- The batch of a page that is no web page is empty; that of another is made of what the store holds. -/
theorem answers_select (url : String) (phase : Json) : Answers (Uses limits contents) (select (.str url) phase)
    (if Url.isWeb url then contents >>= fun c => batchOf limits url phase c.1 c.2 else .ok []) := by
  rw [select, Url.Given.isWeb]
  cases isWeb : Url.isWeb url with
  | false => exact .pure []
  | true => exact answers_load.bind fun c => answers_batch phase c.1 c.2

end Engine

/-! ## Delivery -/

namespace Phase

/-- The phases in which a script is delivered that wants to run at `wish`. -/
def deliveredFor (wish : String) : List Phase :=
  if wish = "document-start" then [.start]
  else if wish = "document-end" then [.parsed, .idle]
  else if wish = "document-idle" then [.idle]
  else []

/-- The phases in which a script is delivered. One that does not say when it wants to run is delivered as if it
wanted to at `document-end`; what says it in no text is never delivered. -/
def deliveredAt (runAt : Json) : List Phase :=
  if runAt.truthy then
    match runAt with
    | .str wish => deliveredFor wish
    | _ => []
  else deliveredFor "document-end"

theorem admits_eq (p : Phase) (wish : String) :
    p.admits wish = (deliveredFor wish).any (·.name = p.name) := by
  unfold deliveredFor
  split
  · next same =>
    rw [same]
    cases p <;> decide
  · split
    · next same =>
      rw [same]
      cases p <;> decide
    · split
      · next same =>
        rw [same]
        cases p <;> decide
      · next notStart notParsed notIdle =>
        cases p <;> simp [admits, name, notStart, notParsed, notIdle]

theorem any_name_of_unknown {name : String} (unknown : ofName? name = none) (phases : List Phase) :
    phases.any (·.name = name) = false := by
  rw [List.any_eq_false]
  intro p _
  exact List.find?_eq_none.mp unknown p (by cases p <;> decide)

/-- A phase of a name admits what is delivered in it. -/
theorem applies_eq {runAt : Json} {name : String} {b : Bool} (h : applies runAt (.str name) = .ok b) :
    b = (deliveredAt runAt).any (·.name = name) := by
  rw [applies, ofJson] at h
  cases named : ofName? name with
  | none =>
    simp only [named, Except.ok.injEq] at h
    rw [any_name_of_unknown named, ← h]
  | some p =>
    obtain rfl : p.name = name := by simpa using List.find?_some named
    simp only [named, wishOf, Json.orElse] at h
    unfold deliveredAt
    cases present : runAt.truthy with
    | false =>
      simp only [present, Bool.false_eq_true, if_false, Except.ok.injEq] at h
      rw [if_neg Bool.false_ne_true, ← h]
      exact admits_eq p "document-end"
    | true =>
      simp only [present, if_true] at h
      rw [if_pos rfl]
      cases runAt with
      | str wish =>
        rw [← Except.ok.inj h]
        exact admits_eq p wish
      | arr items => cases h
      | obj fields => cases h
      | _ =>
        rw [← Except.ok.inj h]
        rfl

end Phase

/-! ## Agreement -/

namespace Engine

variable {limits : Limits} {url : String}

theorem runsOn_eq {name : String} {s : Script} {b : Bool} (h : runsOn limits url (.str name) s = .ok b) :
    b = ((verdictOf limits url "" s).runnable && (Phase.deliveredAt s.runAt).any (·.name = name)) := by
  rw [verdictOf]
  unfold runsOn at h
  cases enabled : s.isEnabled <;> cases code : s.hasCode <;> rw [enabled, code] at h
  case true.true =>
    cases eligible : (decision limits url s).eligible with
    | false =>
      rw [eligible] at h
      exact (Except.ok.inj h).symm
    | true =>
      rw [eligible] at h
      rw [Phase.applies_eq h]
      rfl
  all_goals
    rw [← Except.ok.inj h]
    simp

theorem runnable_of_obstacle {obstacle : String} (there : obstacle ≠ "") (s : Script) :
    (verdictOf limits url obstacle s).runnable = false := by
  rw [verdictOf, decide_eq_false there, Bool.and_false]

theorem batch_of_obstacle {settings : Settings} (there : obstacleOn url settings ≠ "") (phase : Json)
    (scripts : List Script) :
    (if Url.isWeb url then batchOf limits url phase scripts settings else .ok []) = .ok [] := by
  rw [ne_eq, obstacleOn_eq_empty_iff] at there
  unfold batchOf
  split
  · next web =>
    split
    · rfl
    · next safe =>
      split
      · rfl
      · next paused =>
        exact absurd ⟨web, Bool.eq_false_iff.mpr safe, Bool.eq_false_iff.mpr paused⟩ there
  · rfl

/-- The batch of a page that had one is what the verdicts mark runnable and the phase admits. -/
theorem batch_eq_filter {scripts batch : List Script} {settings : Settings} {name : String}
    (selected : (if Url.isWeb url then batchOf limits url (.str name) scripts settings else .ok []) = .ok batch) :
    batch = scripts.filter fun s => (verdictOf limits url (obstacleOn url settings) s).runnable &&
      (Phase.deliveredAt s.runAt).any (·.name = name) := by
  by_cases clear : obstacleOn url settings = ""
  · rw [clear]
    obtain ⟨web, safe, paused⟩ := obstacleOn_eq_empty_iff.mp clear
    rw [if_pos web, batchOf, safe, paused] at selected
    exact filterM_eq_filter (fun s b => runsOn_eq) selected
  · rw [batch_of_obstacle clear] at selected
    rw [← Except.ok.inj selected]
    symm
    rw [List.filter_eq_nil_iff]
    intro s _
    rw [runnable_of_obstacle clear]
    exact Bool.false_ne_true

/-- A batch is made of the scripts that the verdicts mark runnable and that are delivered in the phase, in
catalog order. The verdicts and the batch may be asked for at any time, and of engines that were used in any
way, while the stores hold the same. -/
theorem select_eq_runnable {e e' : Engine} (used : Uses limits contents e) (used' : Uses limits contents e')
    {name : String} {verdicts : List Verdict} {batch : List Script}
    (explained : (runOn (explain (.str url)) e).1 = .ok verdicts)
    (selected : (runOn (select (.str url) (.str name)) e').1 = .ok batch) :
    ∃ scripts settings, contents = .ok (scripts, settings) ∧
      verdicts.map (·.script) = scripts ∧
      batch = (verdicts.filter fun v =>
        v.runnable && (Phase.deliveredAt v.script.runAt).any (·.name = name)).map (·.script) ∧
      batch.Sublist scripts := by
  obtain ⟨_, -, ranExplain⟩ := answers_explain url e used
  obtain ⟨_, -, ranSelect⟩ := answers_select url (.str name) e' used'
  rw [ranExplain] at explained
  rw [ranSelect] at selected
  rcases contents with f | ⟨scripts, settings⟩
  · cases explained
  · obtain rfl := Except.ok.inj explained
    have whole : (scripts.map (verdictOf limits url (obstacleOn url settings))).map (·.script) = scripts := by
      rw [List.map_map]
      exact List.map_id scripts
    have kept : batch = _ := batch_eq_filter selected
    refine ⟨scripts, settings, rfl, whole, ?_, ?_⟩
    · rw [List.filter_map, List.map_map, kept]
      exact (List.map_id _).symm
    · rw [kept]
      exact List.filter_sublist

/-- An engine with a script for each way to say when it wants to run. -/
def shelf : Engine where
  store := {
    backend := .memory {
      scripts := [
        { id := some 1, code := .str "pass", runAt := .str "document-start" },
        { id := some 2, code := .str "pass", matchPatterns := ["https://*.example/*"] },
        { id := some 3, code := .str "pass", runAt := .str "document-idle" },
        { id := some 4, code := .str "pass", enabled := .bool false }]
      settings := { pausedHosts := ["b.example"] } } }
  matcher := .new {}

theorem select_eq_runnable_idle :
    ∃ verdicts, (runOn (explain (.str "https://a.example/")) shelf).1 = .ok verdicts ∧
      ((verdicts.filter fun v => v.runnable &&
        (Phase.deliveredAt v.script.runAt).any (·.name = "document-idle")).map (·.script.id)) = [some 2, some 3] := by
  have used : Uses {} shelf.store.contents shelf := ⟨.new, rfl⟩
  have answered : (runOn (select (.str "https://a.example/") (.str "document-idle")) shelf).1.toOption.map
      (List.map (·.id)) = some [some 2, some 3] := by decide +kernel
  have told : (runOn (explain (.str "https://a.example/")) shelf).1.toBool = true := by decide +kernel
  cases selected : (runOn (select (.str "https://a.example/") (.str "document-idle")) shelf).1 with
  | error f =>
    rw [selected] at answered
    cases answered
  | ok batch =>
    cases explained : (runOn (explain (.str "https://a.example/")) shelf).1 with
    | error f =>
      rw [explained] at told
      cases told
    | ok verdicts =>
      obtain ⟨-, -, -, -, kept, -⟩ := select_eq_runnable used used explained selected
      rw [selected, kept] at answered
      refine ⟨verdicts, rfl, ?_⟩
      rw [← Option.some.inj answered, List.map_map]
      rfl

end Engine

end Userscript
