import Userscript.Log
import Userscript.Page.Document

/-!
# Userscript.Page.Visit

A page with listeners that take notes: each notes when it is called, may add another listener, and may fail. A
failure is logged and stops nothing.
-/

namespace Userscript.Page

/-- A listener that takes notes. -/
inductive Note where
  | note (tag : String) (failure : Option String) (more : Option (String × Note))
deriving Inhabited

/-- A page, and what its listeners noted. -/
structure Visit where
  page : Document Note
  /-- Which listener was called in which state. -/
  fired : List (String × ReadyState) := []
  log : Log := []

namespace Visit

def call (event : String) : Note → Visit → Visit
  | .note tag failure more, v =>
    let page := match more with
      | some (event, l) => v.page.listen event l
      | none => v.page
    let line := failure.toList.map fun text =>
      LogLine.fail ("[Page] " ++ event ++ " listener failed on " ++ page.url ++ ": " ++ text)
    { page, fired := v.fired ++ [(tag, page.state)], log := v.log ++ line }

def dispatch (event : String) (v : Visit) : Visit :=
  (v.page.heard event).foldl (fun v l => v.call event l) v

def through (milestones : List Milestone) (v : Visit) : Visit :=
  pass Visit.page (fun page v => { v with page }) call milestones v

/-- The source of the page is read. -/
def finishParsing (v : Visit) : Visit := v.through v.page.toParsed

/-- All that belongs to the page is loaded. -/
def finishLoading (v : Visit) : Visit := v.through v.page.toLoaded

end Visit
end Userscript.Page
