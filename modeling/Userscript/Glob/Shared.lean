import Userscript.Config.Environment
import Userscript.Glob.Matcher

/-!
# Userscript.Glob.Shared

The matcher that is shared by all who bring none of their own, and the configuration in force.

The matcher is made when it is first asked, under the limits in force then, and stays until it is dropped: a
configuration that is set meanwhile is for the next one. Where no configuration was set, the environment is read
when one is first needed.
-/

namespace Userscript.Glob

/-- The configuration in force, and the matcher, if there is one yet. -/
structure Shared where
  config : Option Config := none
  matcher : Option Matcher := none

namespace Shared

/-- Work with what is shared, which writes to the log. -/
abbrev Work := ExceptT Fault (StateM (Shared × Log))

def configM (e : Config.Environment) : Work Config := do
  match (← get).1.config with
  | some c => return c
  | none =>
    let c ← Config.ofEnvironment e
    modify fun (s, log) => ({ s with config := some c }, log)
    return c

def matcherM (e : Config.Environment) : Work Matcher := do
  match (← get).1.matcher with
  | some m => return m
  | none =>
    let m := Matcher.new (← configM e).limits
    modify fun (s, log) => ({ s with matcher := some m }, log)
    return m

def onMatcher {α : Type} (e : Config.Environment) (work : Matching α) : Work α := do
  let m ← matcherM e
  let (s, log) ← get
  let (answer, m, log) := work.run.run (m, log)
  set ({ s with matcher := some m }, log)
  answer

/-- Sets the configuration in force; without one the environment is read when one is needed. -/
def configure (c : Option Config) (s : Shared) : Shared := { s with config := c }

def drop (s : Shared) : Shared := { s with matcher := none }

end Shared
end Userscript.Glob
