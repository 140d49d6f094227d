import Userscript.Command.Arguments
import Userscript.Command.Switches
import Userscript.Config
import Userscript.Message
import Userscript.Metadata
import Userscript.Selection
import Userscript.Text.Utf8

/-!
# Userscript.Command

The commands by which a user works with the engine.

* `Command.ofArguments` is the command that arguments ask for;
* `Command.run` does it: it prints, and ends with a code. Faults of the engine's own kinds and of files end in
  code 1, arguments that ask for no command in code 2; any other fault is no end.
-/

namespace Userscript

inductive Command where
  /-- Answer hosts over HTTP. -/
  | serve
  /-- Run scripts on pages on their way through a proxy. -/
  | proxy
  /-- The batch of a page for a phase. -/
  | select (url : String) (phase : Phase)
  /-- Which scripts are in scope for a page, and why. -/
  | explain (url : String)
  /-- Put a file into the catalog. -/
  | add (file : Path) (enabled : Bool)
  /-- Show the switches, after a change if there is one. -/
  | settings (switches : Command.Switches)
deriving DecidableEq

namespace Command

/-! ## Arguments -/

def selectFlags : List Flag :=
  [⟨"--phase", true, [Phase.start, .parsed, .idle].map Phase.name⟩, ⟨"--explain", false, []⟩]

def settingsFlags : List Flag :=
  [⟨"--safe-mode", true, ["on", "off"]⟩, ⟨"--pause-host", true, []⟩, ⟨"--resume-host", true, []⟩]

def ofName (name : String) (args : List String) : Except Refusal Command :=
  match name with
  | "serve" => (Arguments.read 0 [] args).map fun _ => .serve
  | "proxy" => (Arguments.read 0 [] args).map fun _ => .proxy
  | "select" => (Arguments.read 1 selectFlags args).map fun a =>
    let url := a.operands.headD ""
    if a.has "--explain" then .explain url
    else .select url (((a.values "--phase").getLast?.bind Phase.ofName?).getD .parsed)
  | "add" => (Arguments.read 1 [⟨"--disabled", false, []⟩] args).map fun a =>
    .add (.ofText (a.operands.headD "")) !(a.has "--disabled")
  | "settings" => (Arguments.read 0 settingsFlags args).map fun a =>
    .settings {
      safeMode := (a.values "--safe-mode").getLast?.map (· = "on")
      pause := a.values "--pause-host"
      resume := a.values "--resume-host" }
  | _ => .error .usage

def ofArguments : List String → Except Refusal Command
  | [] => .error .usage
  | name :: args =>
    match Arguments.word? Arguments.helpFlags name with
    | some (.option _ none) => .error .help
    | some (.operand name) => ofName name args
    | _ => .error .usage

/-! ## Running -/

abbrev Files := Path → Except Fault (List UInt8)

/-- A text in which every end of a line is a line feed. -/
def unixLines : List Char → List Char
  | '\r' :: '\n' :: cs => '\n' :: unixLines cs
  | '\r' :: cs => '\n' :: unixLines cs
  | c :: cs => c :: unixLines cs
  | [] => []

def textOf (bytes : List UInt8) : Except Fault String :=
  match (Text.ofUtf8 bytes).mapM id with
  | some cs => .ok (String.ofList (unixLines cs))
  | none => .error .undecodable

def printed (lines : List String) : String := String.join (lines.map (· ++ "\n"))

def shown (s : Script) : String :=
  "#" ++ (Message.orNull .int s.id).display ++ " " ++ s.name ++ " (" ++ s.wish.display ++ ")"

def shownVerdict (v : Engine.Verdict) : String :=
  let pattern := (v.decision.pattern.getD .null)
  (if v.runnable then "+" else "-") ++ " #" ++ (Message.orNull .int v.script.id).display ++ " " ++
    v.script.name ++ ": " ++ v.decision.reason.name ++
    (if pattern.truthy then " (" ++ pattern.display ++ ")" else "") ++
    (if v.note = "" then "" else " [" ++ v.note ++ "]")

/-- Shows the batch of a page for a phase. -/
def runSelect (url : String) (phase : Phase) : Engine.Work String := do
  let batch ← Engine.select (.str url) (.str phase.name)
  return printed (if batch.isEmpty then ["No scripts for " ++ url ++ " at " ++ phase.name]
    else batch.map shown)

def runExplain (url : String) : Engine.Work String := do
  return printed ((← Engine.explain (.str url)).map shownVerdict)

def runAdd (files : Files) (file : Path) (enabled : Bool) : Engine.Work String := do
  let source ← textOf (← files file)
  let script ← Metadata.scriptOf (.str source) (.bool enabled)
  return printed ["Added " ++ shown (← Engine.onStore (Catalog.Store.addScript script))]

/-- Shows the switches after a change, which is saved. -/
def runSettings (w : Switches) : Engine.Work String := do
  let old ← Engine.onStore Catalog.Store.settings
  if w.changes old then Engine.onStore (Catalog.Store.saveSettings (w.apply old))
  return printed [(w.apply old).toJson.pretty 0]

def print (files : Files) : Command → Engine.Work String
  | serve | proxy => return ""
  | select url phase => runSelect url phase
  | explain url => runExplain url
  | add file enabled => runAdd files file enabled
  | settings w => runSettings w

structure Ending where
  code : Nat
  output : String := ""
  /-- Whether the engine is to answer hosts, at the place of the configuration. -/
  serves : Bool := false
deriving DecidableEq

/-- The end of a command, unless a fault is none. -/
def ending (c : Command) : Except Fault String → Except Fault Ending
  | .ok output => .ok { code := 0, output, serves := c = .serve }
  | .error f => if f.isOwn || f.isOfFiles then .ok { code := 1 } else .error f

/-- Does a command on a catalog, which is closed behind it. -/
def run (files : Files) (limits : Glob.Limits) (c : Command) (store : Catalog.Store) :
    Except Fault Ending × Catalog.Store :=
  let (r, e) := (c.print files).run.run { store, matcher := Glob.Matcher.new limits }
  (c.ending r, e.store.close)

def runArguments (files : Files) (limits : Glob.Limits) (args : List String) (store : Catalog.Store) :
    Except Fault Ending × Catalog.Store :=
  match ofArguments args with
  | .ok c => c.run files limits store
  | .error .usage => (.ok { code := 2 }, store)
  | .error .help => (.ok { code := 0 }, store)
  | .error (.fault f) => (.error f, store)

end Command
end Userscript
