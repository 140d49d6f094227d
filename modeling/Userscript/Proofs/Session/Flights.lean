import Userscript.Proofs.Session.Cookies

/-!
# Userscript.Proofs.Session.Flights

Requests of scripts, one answer of the network at a time.

A request of a script has its turn, and then the network answers, and answers again where a response led to. Between
these points other requests have their turns, and scripts run. So a request is cut at the points where it waits.

* `Session.launch` is the turn of a request, up to the point where the network has to answer;
* `Session.land` is an answer, of any kind, to a request under way: it brings news, or leads on;
* `Session.attempt_eq` and `Session.landed_eq`: if the network answers at once, the parts come to the whole.
-/

namespace Userscript

open Net

/-! ## Where responses lead -/

namespace Net.Client

/-- The request that a response leads to, if the client goes there. -/
def follow (c : Client) (r : Request) (response : Response) : Except Failure (Option Request) := do
  let some location := Header.get? "location" response.headers | return none
  if !isRedirect response.status then return none
  let next ← c.redirect r response.status location
  return if c.followsRedirects then some next else none

/-- A request is sent, and then what its response leads to. -/
theorem run_sendOn (server : Server) (hops : Nat) (r : Request) (s : Client × List Request) :
    (sendOn server (hops + 1) r).run.run s =
      match (exchange server r).run.run s with
      | (.error e, t) => (.error e, t)
      | (.ok response, t) =>
        match t.1.follow r response with
        | .error e => (.error e, t)
        | .ok none => (.ok (r, response), t)
        | .ok (some next) => (sendOn server hops next).run.run t := by
  rw [sendOn, run_bind]
  rcases (exchange server r).run.run s with ⟨e | response, t⟩
  · rfl
  · dsimp only
    unfold follow
    cases Header.get? "location" response.headers with
    | none => rfl
    | some location =>
      cases isRedirect response.status with
      | false => rfl
      | true =>
        dsimp only
        change ((liftM (t.1.redirect r response.status location) >>= fun next =>
          if t.1.followsRedirects = true then sendOn server hops next else pure (r, response) :
            Sending (Request × Response)).run.run t) = _
        rw [run_bind]
        cases t.1.redirect r response.status location with
        | error e => rfl
        | ok next => cases t.1.followsRedirects <;> rfl

/-- A request is made ready, and sent if it is. -/
theorem run_send (server : Server) (method url : String) (headers : List (String × String)) (body : List UInt8)
    (c : Client) (seen : List Request) :
    (send server method url headers body).run.run (c, seen) =
      match c.request method url headers body with
      | .error e => (.error e, (c, seen))
      | .ok r => (sendOn server (mostRedirects + 1) r).run.run (c, seen) := by
  change ((liftM (c.request method url headers body) >>= fun r =>
    sendOn server (mostRedirects + 1) r : Sending (Request × Response)).run.run (c, seen)) = _
  rw [run_bind]
  cases c.request method url headers body <;> rfl

end Net.Client

namespace Relay

variable (r : Relay) (anonymous : Bool) (c : Client)

theorem keep_client : r.keep anonymous (r.client anonymous) = r := by
  cases anonymous <;> rfl

theorem keep_keep (other : Client) : (r.keep anonymous other).keep anonymous c = r.keep anonymous c := by
  cases anonymous <;> rfl

end Relay

/-! ## Requests under way -/

/-- A request under way. -/
structure Flight where
  author : Author
  details : Relay.Details
  anonymous : Bool
  request : Request
  /-- How many more responses may lead it on. -/
  hops : Nat

namespace Session

variable {σ : Type}

/-- The turn of a request, up to the point where the network has to answer. -/
def launch (set : Setting σ) (a : Author) (d : Relay.Details) (s : Session σ) : (Relay.News ⊕ Flight) × Session σ :=
  match s.ready set a d with
  | (.error n, s) => (.inl n, s)
  | (.ok w, s) =>
    match (s.relay.client w.anonymous).request w.method w.url w.headers w.body with
    | .error f => (.inl (.failure f), s)
    | .ok r => (.inr ⟨a, d, w.anonymous, r, mostRedirects⟩, s)

def Taken (r : Request) : Prop := r.address.scheme = "http" ∨ r.address.scheme = "https"

instance (r : Request) : Decidable (Taken r) := inferInstanceAs (Decidable (_ ∨ _))

/-- The page after an answer: the network saw the request, and its client keeps the cookies that came. -/
def answered (f : Flight) (answer : Except Failure Response) (s : Session σ) : Session σ :=
  let c := s.relay.client f.anonymous
  { s with
    relay := match answer with
      | .ok response =>
        s.relay.keep f.anonymous { c with jar := c.jar.take c.now f.request.address response.headers }
      | .error _ => s.relay
    seen := if Taken f.request then s.seen ++ [f.request] else s.seen }

/-- An answer to a request under way, which leads it on or brings news of it. -/
def land (f : Flight) (answer : Except Failure Response) (s : Session σ) : (Relay.News ⊕ Flight) × Session σ :=
  let s := s.answered f answer
  match answer with
  | .error e => (.inl (.failure e), s)
  | .ok response =>
    match (s.relay.client f.anonymous).follow f.request response with
    | .error e => (.inl (.failure e), s)
    | .ok none => (.inl (.response f.request.address response), s)
    | .ok (some next) =>
      match f.hops with
      | 0 => (.inl (.failure .tooManyRedirects), s)
      | hops + 1 => (.inr { f with request := next, hops }, s)

/-! ## Answers at once -/

/-- What a client of the page does, and what it leaves. -/
def sends {α : Type} (anonymous : Bool) (x : Sending α) (s : Session σ) : Except Failure α × Session σ :=
  let (r, (c, seen)) := x.run.run (s.relay.client anonymous, s.seen)
  (r, { s with relay := s.relay.keep anonymous c, seen })

/-- What the network answers to a request under way. -/
def answerTo (set : Setting σ) (f : Flight) (s : Session σ) : Except Failure Response :=
  if Taken f.request then set.server s.seen f.request
  else .error (.network "UnsupportedProtocol" "unsupported protocol")

/-- What comes of a request that was sent. -/
def newsOf : Except Failure (Request × Response) → Relay.News
  | .error f => .failure f
  | .ok (request, response) => .response request.address response

/-- What comes of a request under way, and of all that responses lead to, when the network answers at once. -/
def landed (set : Setting σ) (f : Flight) (s : Session σ) : Relay.News × Session σ :=
  let (r, s) := s.sends f.anonymous (Client.sendOn set.server (f.hops + 1) f.request)
  (newsOf r, s)

/-- A client that keeps nothing leaves the page as it was. -/
theorem keep_same (anonymous : Bool) (s : Session σ) :
    { s with relay := s.relay.keep anonymous (s.relay.client anonymous) } = s := by
  rw [Relay.keep_client]

theorem sends_exchange (set : Setting σ) (f : Flight) (s : Session σ) :
    s.sends f.anonymous (Client.exchange set.server f.request) =
      (s.answerTo set f, s.answered f (s.answerTo set f)) := by
  unfold sends answerTo answered
  rw [Client.run_exchange]
  by_cases taken : Taken f.request
  · rw [if_pos taken, if_pos taken, if_pos (show _ ∨ _ from taken)]
    simp only [Client.answered, Jar.answered]
    cases set.server s.seen f.request with
    | error e => exact congrArg (Prod.mk _) (keep_same f.anonymous { s with seen := s.seen ++ [f.request] })
    | ok response => rfl
  · rw [if_neg taken, if_neg taken, if_neg (show ¬ (_ ∨ _) from taken)]
    exact congrArg (Prod.mk _) (s.keep_same f.anonymous)

theorem sends_sendOn (set : Setting σ) (anonymous : Bool) (hops : Nat) (r : Request) (s : Session σ) :
    s.sends anonymous (Client.sendOn set.server (hops + 1) r) =
      match s.sends anonymous (Client.exchange set.server r) with
      | (.error e, t) => (.error e, t)
      | (.ok response, t) =>
        match (t.relay.client anonymous).follow r response with
        | .error e => (.error e, t)
        | .ok none => (.ok (r, response), t)
        | .ok (some next) => t.sends anonymous (Client.sendOn set.server hops next) := by
  unfold sends
  rw [Client.run_sendOn]
  rcases (Client.exchange set.server r).run.run (s.relay.client anonymous, s.seen) with ⟨e | response, c, seen⟩
  · rfl
  · dsimp only
    rw [Relay.client_keep]
    rcases c.follow r response with e | _ | next
    · rfl
    · rfl
    · simp only [Relay.keep_keep]

/-- A request under way is answered, and what the answer leads to is. -/
theorem landed_eq (set : Setting σ) (f : Flight) (s : Session σ) :
    s.landed set f =
      match s.land f (s.answerTo set f) with
      | (.inl n, t) => (n, t)
      | (.inr g, t) => t.landed set g := by
  unfold landed land
  rw [sends_sendOn, sends_exchange]
  cases s.answerTo set f with
  | error e => rfl
  | ok response =>
    dsimp only
    rcases ((s.answered f (.ok response)).relay.client f.anonymous).follow f.request response with e | _ | next
    · rfl
    · rfl
    · cases hops : f.hops with
      | zero => exact congrArg (Prod.mk _) (keep_same f.anonymous _)
      | succ hops => rfl

/-- A request has its turn, and what it leads to is answered. -/
theorem attempt_eq (set : Setting σ) (a : Author) (d : Relay.Details) (s : Session σ) :
    s.attempt set a d =
      match s.launch set a d with
      | (.inl n, t) => (n, t)
      | (.inr f, t) => t.landed set f := by
  unfold attempt launch
  rcases s.ready set a d with ⟨n | w, t⟩
  · rfl
  · dsimp only
    unfold exchange
    rw [Client.run_send]
    cases (t.relay.client w.anonymous).request w.method w.url w.headers w.body with
    | error e => exact congrArg (Prod.mk _) (t.keep_same w.anonymous)
    | ok r =>
      dsimp only
      unfold landed sends newsOf
      rcases (Client.sendOn set.server (mostRedirects + 1) r).run.run (t.relay.client w.anonymous, t.seen) with
        ⟨e | ⟨request, response⟩, c, seen⟩ <;> rfl

end Session
end Userscript
