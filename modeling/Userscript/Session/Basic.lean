import Userscript.Page.Document
import Userscript.Relay
import Userscript.Selection
import Userscript.Storage.Scoped

/-!
# Userscript.Session

A page with the engine attached to it.

Scripts run one after another, and nothing runs beside them: what is put off waits in a queue of jobs, oldest
first. These are the turns of the three phases, the reports of runs, and the requests of scripts.

* `Bridge` is where the batch of a phase comes from, and where reports of runs go;
* `Session` is the page, its scripts' memory and storage, and the queue.
-/

namespace Userscript

/-- Whose code runs on a page: the id of a script, how the log calls it, and what it stores where. -/
structure Author where
  id : Option Int
  label : String
  scope : Storage.Scope

/-- What came of the run of a script: the error that it ended in, or none. -/
structure Outcome where
  id : Option Int
  name : String
  error : Option String
deriving DecidableEq

namespace Outcome

/-- Whether the run came to its end. -/
def ok (o : Outcome) : Bool := o.error.isNone

end Outcome

/-- The way to the engine, which has a state of its own. -/
structure Bridge (σ : Type) where
  /-- The batch of a page for a phase. -/
  select : String → Phase → σ → Except Fault (List Script) × Log × σ
  /-- How often an answer for a page goes round the queue before it is there. -/
  laps : String → Nat
  /-- Takes the report of a run: the id of the script, and its error if it failed. -/
  report : Int → Option String → σ → Except Fault Unit × σ

/-- What stays the same while a page lives. -/
structure Setting (σ : Type) where
  bridge : Bridge σ
  server : Net.Server := fun _ _ => .ok {}
  /-- What the keys of all scripts begin with. -/
  keyStart : String := "musp_"
  /-- The longest code that is run. -/
  longest : Int := 1048576
  /-- What functions answer that are provided from outside. -/
  answers : Nat → Except (String × String) Json := fun _ => .ok .null

namespace Session

inductive Stand where
  /-- Its turn is in the queue. -/
  | queued
  /-- It waits for the round before it. -/
  | waiting
  /-- It asked for its batch. -/
  | asked
  /-- Its batch ran, or there was none. -/
  | done (outcomes : List Outcome)
  | failed (fault : Fault)

namespace Stand

def isOver : Stand → Bool
  | done _ | failed _ => true
  | _ => false

end Stand

/-- One run of a phase. -/
structure Round where
  phase : Phase
  /-- The round to wait for. -/
  previous : Option Nat := none
  /-- Whether it lets one more turn of the queue pass. -/
  yields : Bool := false
  /-- Whether the page asked for it; otherwise somebody else did, and it does not end the loading. -/
  scheduled : Bool := true
  stand : Stand := .queued

inductive Job where
  /-- The turn of a round. -/
  | round (n : Nat)
  /-- The answer to a round, with the laps that it has still to go. -/
  | answer (n laps : Nat)
  | report (outcome : Outcome)
  | request (author : Author) (details : Relay.Details)
  /-- Tells who waits for it that the last phase is over. -/
  | wake

end Session

/-- A page with the engine attached to it. -/
structure Session (σ : Type) where
  document : Page.Document Phase
  storage : Storage
  relay : Relay
  /-- The state of the engine behind the bridge. -/
  engine : σ
  memory : Machine.Memory := {}
  /-- The requests that the network saw. -/
  seen : List Net.Request := []
  queue : List Session.Job := []
  attached : Bool := false
  rounds : List Session.Round := []
  /-- The round that the next one waits for. -/
  last : Option Nat := none
  /-- The phases for which a batch was asked. -/
  requested : List Phase := []
  outcomes : List Outcome := []
  /-- How many runs came to their end. -/
  runCount : Nat := 0
  /-- Whether the last phase is over. -/
  idle : Bool := false
  /-- The calls of functions that are provided from outside. -/
  noted : List (Nat × List Machine.Value) := []
  log : Log := []

namespace Session

variable {σ : Type}

def push (j : Job) (s : Session σ) : Session σ := { s with queue := s.queue ++ [j] }

def write (line : LogLine) (s : Session σ) : Session σ := { s with log := s.log ++ [line] }

def pending (s : Session σ) : Nat :=
  s.queue.countP fun
    | .request .. => true
    | _ => false

end Session
end Userscript
