import Userscript.Session.Basic

/-!
# Userscript.Session.Host

What the page does when a script asks for something.

* `Dialogue.host` goes through a dialogue: styles go to the page, values to the storage, requests to the queue;
* `Session.act` runs a step of the machine for an author;
* `Session.attempt` makes a request ready and sends it, `Session.conclude` tells the script what came of it, and
  `Session.perform` does both.
-/

namespace Userscript

open Machine Net

variable {σ : Type}

/-- Goes through a dialogue for an author. -/
def Machine.Dialogue.host {α : Type} (set : Setting σ) (a : Author) : Dialogue α → Session σ → α × Session σ
  | .done x, s => (x, s)
  | .addStyle css k, s =>
    (k ⟨s.document.nextStyle, a.id⟩).host set a { s with document := s.document.addStyle css a.id }
  | .getValue key k, s => (k (a.scope.get? key s.storage)).host set a s
  | .setValue key v k, s =>
    let (r, storage, log) := a.scope.set key v s.storage
    (k r).host set a { s with storage, log := s.log ++ log }
  | .send details k, s => (k ()).host set a (s.push (.request a details))
  | .print text k, s => (k ()).host set a (s.write (.note ("[" ++ a.label ++ "] " ++ text)))
  | .foreign n args k, s => (k (set.answers n)).host set a { s with noted := s.noted ++ [(n, args)] }

namespace Session

/-- Runs a step of the machine for an author. -/
def act {α : Type} (set : Setting σ) (a : Author) (x : Act α) (s : Session σ) :
    Except Trouble α × Session σ :=
  let ((r, memory), s) := (x s.memory).host set a s
  (r, { s with memory })

/-- What details name for an event, if it can be called. -/
def listener? (d : Relay.Details) (event : String) (s : Session σ) : Option Value :=
  let f := (s.memory.lookUp (.str event) d).getD .none
  if s.memory.isCallable f then some f else none

/-- Who is told of the news of a request, if anybody is. -/
def hearer? (d : Relay.Details) (n : Relay.News) (s : Session σ) : Option Value :=
  if n.reaches d s.memory then s.listener? d n.event else none

/-- Calls a function of an author with the news of a request; an error in it is logged if it has words, and nobody else
learns of it. -/
def tell (set : Setting σ) (a : Author) (n : Relay.News) (f : Value) (s : Session σ) : Session σ :=
  let (r, s) := s.act set a do
    let v ← n.make
    calls.call f [v] []
  match r with
  | .error (.raised e) =>
    if s.memory.isWritable e then
      s.write (.warn ("[Relay] " ++ n.event ++ " callback raised " ++ s.memory.typeName e ++ ": " ++
        s.memory.display e))
    else s
  | _ => s

/-- Tells the script what came of a request. -/
def conclude (set : Setting σ) (a : Author) (d : Relay.Details) (n : Relay.News) (s : Session σ) : Session σ :=
  match s.hearer? d n with
  | some f => s.tell set a n f
  | none => s

/-- Makes a request ready. The method comes first. -/
def ready (set : Setting σ) (a : Author) (d : Relay.Details) (s : Session σ) :
    Except Relay.News Relay.Wanted × Session σ :=
  match s.act set a (Relay.methodOf d) with
  | (.error t, s) => (.error (.unread t), s)
  | (.ok method, s) =>
    match s.act set a (Relay.wantedOf d method) with
    | (.error (.raised e), s) => (.error (.misread e), s)
    | (.error .endless, s) => (.error (.unread .endless), s)
    | (.ok w, s) => (.ok w, s)

/-- Sends a request over the network. -/
def exchange (set : Setting σ) (w : Relay.Wanted) (s : Session σ) :
    Except Failure (Request × Response) × Session σ :=
  let (r, (c, seen)) :=
    (Client.send set.server w.method w.url w.headers w.body).run.run (s.relay.client w.anonymous, s.seen)
  (r, { s with relay := s.relay.keep w.anonymous c, seen })

/-- Makes a request ready and sends it: what comes of it. -/
def attempt (set : Setting σ) (a : Author) (d : Relay.Details) (s : Session σ) : Relay.News × Session σ :=
  match s.ready set a d with
  | (.error n, s) => (n, s)
  | (.ok w, s) =>
    match s.exchange set w with
    | (.error f, s) => (.failure f, s)
    | (.ok (request, response), s) => (.response request.address response, s)

/-- Makes a request ready, sends it, and tells the script what came of it. -/
def perform (set : Setting σ) (a : Author) (d : Relay.Details) (s : Session σ) : Session σ :=
  let (n, s) := s.attempt set a d
  s.conclude set a d n

/-- Takes a request of an author into the queue. -/
def take (a : Author) (d : Relay.Details) (s : Session σ) : Session σ := s.push (.request a d)

end Session
end Userscript
