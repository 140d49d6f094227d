import Userscript.Session.Batch

/-!
# Userscript.Session.Rounds

The life of a page with the engine: three phases in order, each asked for once.

`document-start` is due when the engine is attached, `document-end` when the source is read, `document-idle`
when all is loaded and the queue went round once more. A phase waits for the one before it. If no batch comes,
the phase runs nothing.

* `Session.attach`, `Session.finishParsing` and `Session.finishLoading` are what happens to the page;
* `Session.step` does the oldest job, `Session.settle` does all jobs;
* `Session.waitIdle` does jobs until the last phase is over.
-/

namespace Userscript.Session

variable {σ : Type}

/-! ## Rounds -/

def round? (n : Nat) (s : Session σ) : Option Round := s.rounds[n]?

def setRound (n : Nat) (f : Round → Round) (s : Session σ) : Session σ :=
  { s with rounds := s.rounds.modify n f }

def setStand (n : Nat) (stand : Stand) (s : Session σ) : Session σ := s.setRound n fun r => { r with stand }

/-- Puts a phase behind the one before it. -/
def schedule (phase : Phase) (yields : Bool) (s : Session σ) : Session σ :=
  let n := s.rounds.length
  { s with
    rounds := s.rounds ++ [{ phase, previous := s.last, yields }]
    last := some n
    queue := s.queue ++ [.round n] }

def due (phase : Phase) (s : Session σ) : Session σ := s.schedule phase (phase = .idle)

/-- Makes a phase due now, or when an event comes. -/
def dueOn (now : Bool) (event : String) (phase : Phase) (s : Session σ) : Session σ :=
  if now then s.due phase else { s with document := s.document.listen event phase }

/-- Attaches the engine; a second time nothing happens. -/
def attach (s : Session σ) : Session σ :=
  if s.attached then s
  else
    let s := { s with attached := true }.due .start
    let s := s.dueOn (s.document.state ≠ .loading) Page.parsedEvent .parsed
    s.dueOn (s.document.state = .complete) Page.loadedEvent .idle

def through (milestones : List Page.Milestone) (s : Session σ) : Session σ :=
  Page.pass Session.document (fun document s => { s with document }) (fun _ phase s => s.due phase) milestones s

/-- The source of the page is read. -/
def finishParsing (s : Session σ) : Session σ := s.through s.document.toParsed

/-- All that belongs to the page is loaded. -/
def finishLoading (s : Session σ) : Session σ := s.through s.document.toLoaded

/-- The rounds that wait for a round. -/
def waitingFor (n : Nat) (s : Session σ) : List Nat :=
  (List.range s.rounds.length).filter fun m =>
    match s.round? m with
    | some { previous := some p, stand := .waiting, .. } => p = n
    | _ => false

/-- Ends a round: those that wait for it have their turn next. -/
def finish (n : Nat) (stand : Stand) (s : Session σ) : Session σ :=
  let s := match s.round? n with
    | some { phase := .idle, scheduled := true, .. } => { s with idle := true }.push .wake
    | _ => s
  let s := s.setStand n stand
  (s.waitingFor n).foldl (fun s m => s.push (.round m)) s

/-- Puts the report of a run into the queue, if its script has an id. -/
def later : Reporter σ := fun o s => (none, if o.id.isSome then s.push (.report o) else s)

/-- What the log says when there is no batch. -/
def noBatch (phase : Phase) (f : Fault) (s : Session σ) : LogLine :=
  .warn ("[Driver] " ++ phase.name ++ " on " ++ s.document.url ++ ": no batch (" ++
    Engine.innerText f ++ ")")

def runRound (set : Setting σ) (n : Nat) (phase : Phase) (s : Session σ) : Session σ :=
  match set.bridge.select s.document.url phase s.engine with
  | (.error f, log, engine) =>
    let s := { s with engine, log := s.log ++ log }
    (s.write (s.noBatch phase f)).finish n (.done [])
  | (.ok scripts, log, engine) =>
    match { s with engine, log := s.log ++ log }.runBatch set later scripts with
    | (.error f, s) => s.finish n (.failed f)
    | (.ok outcomes, s) => { s with outcomes := s.outcomes ++ outcomes }.finish n (.done outcomes)

/-- Asks for the batch of a round. -/
def ask (set : Setting σ) (n : Nat) (phase : Phase) (s : Session σ) : Session σ :=
  let s := { s with requested := s.requested ++ [phase] }.setStand n .asked
  match set.bridge.laps s.document.url with
  | 0 => s.runRound set n phase
  | laps + 1 => s.push (.answer n laps)

/-- Gives a round its turn: it lets others pass, waits, or asks for its batch. -/
def advance (set : Setting σ) (n : Nat) (s : Session σ) : Session σ :=
  match s.round? n with
  | none => s
  | some r =>
    if r.yields then (s.setRound n fun r => { r with yields := false }).push (.round n)
    else match r.previous.bind s.round? with
      | none | some { stand := .done _, .. } => s.ask set n r.phase
      | some { stand := .failed f, .. } => s.finish n (.failed f)
      | some _ => s.setStand n .waiting

/-! ## Jobs -/

/-- Takes the report of a run to the engine. -/
def deliver (set : Setting σ) (o : Outcome) (s : Session σ) : Session σ :=
  match o.id with
  | none => s
  | some id =>
    match set.bridge.report id o.error s.engine with
    | (.ok _, engine) => { s with engine }
    | (.error f, engine) =>
      { s with engine }.write (.warn ("[Driver] Run report for script " ++ toString id ++ " lost: " ++
        Engine.innerText f))

def work (set : Setting σ) (j : Job) (s : Session σ) : Session σ :=
  match j with
  | .round n => s.advance set n
  | .answer n (laps + 1) => s.push (.answer n laps)
  | .answer n 0 =>
    match s.round? n with
    | some r => s.runRound set n r.phase
    | none => s
  | .report o => s.deliver set o
  | .request a d => s.perform set a d
  | .wake => s

/-- Does the oldest job, and tells which it was. -/
def step (set : Setting σ) (s : Session σ) : Option (Job × Session σ) :=
  match s.queue with
  | [] => none
  | j :: queue => some (j, { s with queue }.work set j)

/-- Does jobs until one of them, or what came of it, is what is waited for. The answer tells whether it
came. -/
def runUntil (set : Setting σ) (stop : Job → Session σ → Bool) : Nat → Session σ → Bool × Session σ
  | 0, s => (false, s)
  | fuel + 1, s =>
    match s.step set with
    | none => (false, s)
    | some (j, s) => if stop j s then (true, s) else s.runUntil set stop fuel

/-- A bound on the jobs of a page. -/
def patience : Nat := Machine.turns

def settle (set : Setting σ) (s : Session σ) : Session σ := (s.runUntil set (fun _ _ => false) patience).2

/-- Does jobs until the last phase is over, and tells whether it is. -/
def waitIdle (set : Setting σ) (s : Session σ) : Bool × Session σ :=
  if s.idle then (true, s)
  else s.runUntil set (fun j _ => match j with
    | .wake => true
    | _ => false) patience

/-- Does all jobs, and lets the clients go. -/
def close (set : Setting σ) (s : Session σ) : Session σ :=
  let s := s.settle set
  { s with relay := s.relay.closed }

/-- Asks for a phase on the spot, and does jobs until its batch ran. -/
def runPhase (set : Setting σ) (phase : Phase) (s : Session σ) : Except Fault (List Outcome) × Session σ :=
  let n := s.rounds.length
  let isOver (s : Session σ) : Bool := ((s.round? n).map (·.stand.isOver)).getD true
  let round : Round := { phase, scheduled := false }
  let s : Session σ := { s with rounds := s.rounds ++ [round] }.advance set n
  let s := if isOver s then s else (s.runUntil set (fun _ s => isOver s) patience).2
  match (s.round? n).map Round.stand with
  | some (.done outcomes) => (.ok outcomes, s)
  | some (.failed f) => (.error f, s)
  | _ => (.ok [], s)

end Userscript.Session
