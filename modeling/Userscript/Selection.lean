import Userscript.Catalog.Store
import Userscript.Eligibility
import Userscript.Url.Given

/-!
# Userscript.Selection

Which scripts run on a page in a phase, and why the others do not.

`select` gives the batch of a phase in catalog order: nothing on pages that are not web pages, in
safe mode, or on a host on which scripts are paused; otherwise the scripts that are switched on, have
code, are eligible for the URL and are admitted by the phase. `explain` goes through the whole
catalog without regard to the phase.
-/

namespace Userscript

/-- The engine's state: a store, a matcher, and what was written to the log. -/
structure Engine where
  store : Catalog.Store
  matcher : Glob.Matcher
  log : Log := []

namespace Engine

/-- Work of the engine; what it did before a fault stays done. -/
abbrev Work := ExceptT Fault (StateM Engine)

def onStore {α : Type} (work : Catalog.Store.Work α) : Work α := do
  let e ← get
  let (answer, store) := work.run.run e.store
  set { e with store := store }
  answer

def onMatcher {α : Type} (work : Glob.Matching α) : Work α := do
  let e ← get
  let (answer, matcher, log) := work.run.run (e.matcher, e.log)
  set { e with matcher := matcher, log := log }
  answer

/-- The text of a collaborator's own error inside another message. -/
def innerText : Fault → String
  | .collaborator "KeyError" text => Text.quote text
  | f => f.message

/-- A failed read of the store, as the engine tells it. -/
def readFault : Fault → Fault
  | .unavailable message => .unavailable message
  | f => .unavailable ("Catalog/settings fetch failed: " ++ innerText f)

/-- The catalog and the settings. If neither can be read, it is the catalog's fault that counts. -/
def load : Work (List Script × Settings) := do
  let scripts ← tryCatch (onStore Catalog.Store.catalog) fun f => throw (readFault f)
  let settings ← tryCatch (onStore Catalog.Store.settings) fun f => throw (readFault f)
  return (scripts, settings)

/-- Whether a script runs on a page in a phase. -/
def runs (url phase : Json) (s : Script) : Work Bool := do
  if !s.isEnabled || !s.hasCode then return false
  let decision ← onMatcher (Eligibility.evaluate url s.scope)
  if !decision.eligible then return false
  Phase.applies s.runAt phase

/-- The batch of a page for a phase. -/
def select (url phase : Json) : Work (List Script) := do
  if !(← Url.Given.isWeb url) then return []
  let (scripts, settings) ← load
  if settings.safeMode then return []
  if settings.isPaused (← Url.Given.siteHost url) then return []
  scripts.filterM (runs url phase)

/-- What is told of a script and a page. -/
structure Verdict where
  script : Script
  decision : Eligibility.Decision
  runnable : Bool
  note : String

/-- Why no script runs on a page, if none does. -/
def obstacle (isWeb : Bool) (settings : Settings) (host : String) : String :=
  if !isWeb then "not a web page"
  else if settings.safeMode then "safe mode is on"
  else if settings.isPaused host then "scripts paused on " ++ host
  else ""

/-- The verdict on a script, given why no script runs on the page. -/
def verdict (url : Json) (obstacle : String) (s : Script) : Work Verdict := do
  let decision ← onMatcher (Eligibility.evaluate url s.scope)
  return {
    script := s
    decision := decision
    runnable := decision.eligible && s.isEnabled && s.hasCode && obstacle = ""
    note := if !s.isEnabled then "disabled" else if !s.hasCode then "no code" else obstacle }

/-- The verdicts on all scripts of the catalog. -/
def explain (url : Json) : Work (List Verdict) := do
  let (scripts, settings) ← load
  let host ← Url.Given.siteHost url
  let isWeb ← Url.Given.isWeb url
  scripts.mapM (verdict url (obstacle isWeb settings host))

end Engine
end Userscript
