import Userscript.Catalog.Settings
import Userscript.Url.Authority

/-!
# Userscript.Command.Switches

What a command changes about the user's switches: safe mode, hosts to pause, and hosts to resume.

A host may be given as part of a URL. A host that is paused already is not paused a second time; resuming takes
its first entry off the list.
-/

namespace Userscript

namespace Settings

/-- Puts a host on the list of paused hosts, unless it is there or empty. -/
def pause (host : String) (s : Settings) : Settings :=
  if host = "" || s.pausedHosts.contains host then s
  else { s with pausedHosts := s.pausedHosts ++ [host] }

/-- Takes a host off the list of paused hosts. -/
def resume (host : String) (s : Settings) : Settings :=
  { s with pausedHosts := s.pausedHosts.erase host }

end Settings

namespace Command

structure Switches where
  safeMode : Option Bool := none
  pause : List String := []
  resume : List String := []
deriving DecidableEq

namespace Switches

def apply (w : Switches) (s : Settings) : Settings :=
  let s := { s with safeMode := w.safeMode.getD s.safeMode }
  let s := w.pause.foldl (fun s given => s.pause (Url.bareHost given)) s
  w.resume.foldl (fun s given => s.resume (Url.bareHost given)) s

/-- Whether anything is to be saved: safe mode was given, or the list of hosts changes on the way. -/
def changes (w : Switches) (s : Settings) : Bool :=
  let paused := w.pause.foldl (fun s given => s.pause (Url.bareHost given)) s
  w.safeMode.isSome || paused.pausedHosts ≠ s.pausedHosts || (w.apply s).pausedHosts ≠ paused.pausedHosts

end Switches
end Command
end Userscript
