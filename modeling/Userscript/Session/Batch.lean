import Userscript.Machine.Rehearsal
import Userscript.Session.Host

/-!
# Userscript.Session.Batch

Scripts run on a page, one after another.

A script that fails does not stop the others, unless its error has no words; and a page whose origin cannot be told
runs none. Each outcome is reported; a report that is refused is logged.

* `Session.runScript` runs one script;
* `Session.runBatch` runs a batch in order.
-/

namespace Userscript

open Machine

/-- Takes an outcome, or tells why it cannot. -/
abbrev Reporter (σ : Type) := Outcome → Session σ → Option String × Session σ

namespace Session

variable {σ : Type}

/-- The author of a script on a page. -/
def authorOf (set : Setting σ) (origin : String) (script : Script) : Author :=
  { id := script.id
    label := Program.label script.id script.name
    scope := ⟨set.keyStart, Storage.ownerOf script.id, origin⟩ }

def capabilities : List Value := Capability.all.map .capability

/-- Runs the code of a script; the answer is the error that it ended in, if it did. -/
def runCode (set : Setting σ) (origin : String) (script : Script) (s : Session σ) :
    Except Fault (Option String) × Session σ :=
  match Program.ofSource set.longest script.code with
  | .error f => (.ok (some f.described), s)
  | .ok p =>
    match s.act set (authorOf set origin script) (p.start capabilities) with
    | (.ok _, s) => (.ok none, s)
    | (.error t, s) => ((t.told s.memory).map some, s)

/-- Counts a run that came to its end. -/
def count (s : Session σ) : Session σ :=
  let runCount := s.runCount + 1
  { s with
    runCount
    document := { s.document with indicator := s.document.indicator.update runCount } }

/-- How the log calls a script whose run failed. -/
def nameOf (script : Script) : String :=
  if script.name = "" then (Storage.ownerOf script.id).display else script.name

/-- Takes note of how a run ended. -/
def settled (script : Script) (error : Option String) (s : Session σ) : Session σ :=
  match error with
  | none => s.count
  | some text => s.write (.fail ("[Sandbox] Script error in " ++ nameOf script ++ ": " ++ text))

def reported (report : Reporter σ) (o : Outcome) (s : Session σ) : Session σ :=
  match report o s with
  | (none, s) => s
  | (some text, s) =>
    s.write (.warn ("[Sandbox] Could not report run of script " ++ (Storage.ownerOf o.id).display ++ ": " ++ text))

/-- Runs a script on the page, and reports what came of it. -/
def runScript (set : Setting σ) (report : Reporter σ) (script : Script) (s : Session σ) :
    Except Fault Outcome × Session σ :=
  match s.document.origin with
  | .error f => (.error f, s)
  | .ok origin =>
    match s.runCode set origin script with
    | (.error f, s) => (.error f, s)
    | (.ok error, s) =>
      let outcome : Outcome := ⟨script.id, script.name, error⟩
      (.ok outcome, (s.settled script error).reported report outcome)

def runBatch (set : Setting σ) (report : Reporter σ) :
    List Script → Session σ → Except Fault (List Outcome) × Session σ
  | [], s => (.ok [], s)
  | script :: rest, s =>
    match s.runScript set report script with
    | (.error f, s) => (.error f, s)
    | (.ok o, s) =>
      match runBatch set report rest s with
      | (.error f, s) => (.error f, s)
      | (.ok os, s) => (.ok (o :: os), s)

end Session
end Userscript
