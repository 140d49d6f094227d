import Mathlib.Data.List.Basic
import Userscript.Net.Client
import Userscript.Proofs.Work

/-!
# Userscript.Proofs.Net.Client

Which cookies a client sends, and which it has afterwards.

A header for cookies is written for a request, and anew for each request that a response leads to, from the jar as it
is then; a header that whoever made the request brought stays, but not on the way on.

* `has_request` and `has_redirect`: a request has a header for cookies if and only if the jar has one for its address;
* `Sent`: what the network saw, and by which of two clients;
* `Carried` and `jarOf`: that says of all that was sent which requests had cookies, and what the jar is afterwards;
* `run_send`: what is seen of one request and of all that responses lead to.
-/

namespace Userscript.Net

/-! ## Headers -/

namespace Header

variable {name other value : String} {h h' : Headers}

theorem has_append : has name (h ++ h') = (has name h || has name h') := List.any_append

theorem has_erase_of_ne (hne : name ≠ other) : has name (erase other h) = has name h := by
  rw [has, erase, List.any_filter, has]
  congr 1
  funext p
  by_cases hp : p.1 = name
  · simp [hp, hne]
  · simp [hp]

theorem has_erase_self : has name (erase name h) = false := by
  rw [has, erase, List.any_filter, List.any_eq_false]
  intro p _
  simp

theorem has_set_of_ne (hne : name ≠ other) : has name (set other value h) = has name h := by
  induction h with
  | nil => simp [set, has, hne.symm]
  | cons p rest ih =>
    obtain ⟨n, v⟩ := p
    rw [set]
    split
    · rename_i hn
      have herase : has name (erase other rest) = has name rest := has_erase_of_ne hne
      simp only [has, List.any_cons] at herase ⊢
      rw [herase, hn]
    · simp only [has, List.any_cons] at ih ⊢
      rw [ih]

theorem has_ofPairs {pairs : List (String × String)} (hpairs : ofPairs pairs = .ok h) :
    has name h = pairs.any fun p => lowered p.1 = name := by
  rw [ofPairs] at hpairs
  induction pairs generalizing h with
  | nil =>
    cases hpairs
    rfl
  | cons p rest ih =>
    rw [List.mapM_cons] at hpairs
    obtain ⟨first, hfirst, hpairs⟩ := bind_eq_ok hpairs
    obtain ⟨more, hmore, hpairs⟩ := bind_eq_ok hpairs
    cases hpairs
    have hname : first.1 = lowered p.1 := by
      change ofPair p.1 p.2 = .ok first at hfirst
      unfold ofPair at hfirst
      split at hfirst
      · cases hfirst
      · exact congrArg Prod.fst (Except.ok.inj hfirst).symm
    have htail := ih hmore
    rw [has] at htail
    rw [has, List.any_cons, List.any_cons, hname, htail]

end Header

/-! ## Requests with cookies -/

/-- A jar has a cookie for an address. -/
def Jar.Matches (now : Int) (j : Jar) (a : Address) : Prop := ∃ k ∈ j.all, k.goesWith now a = true

theorem Jar.header?_eq_none_iff {now : Int} {a : Address} {j : Jar} : j.header? now a = none ↔ ¬ j.Matches now a := by
  have hempty : ((j.all.filter (·.goesWith now a)).mergeSort fun c d => d.path.length ≤ c.path.length).isEmpty = true ↔
      ¬ j.Matches now a := by
    rw [List.isEmpty_iff, ← List.length_eq_zero_iff, List.length_mergeSort, List.length_eq_zero_iff,
      List.filter_eq_nil_iff]
    simp [Matches]
  rw [← hempty, header?]
  simp

namespace Client

variable {c : Client} {a : Address} {headers out : Headers} {r next : Request}

theorem has_withCookies (h : c.withCookies a headers = .ok out) (hnone : Header.has "cookie" headers = false) :
    Header.has "cookie" out = true ↔ c.jar.Matches c.now a := by
  unfold withCookies at h
  split at h
  · rename_i hempty
    cases h
    refine iff_of_false (by rw [hnone]; exact Bool.false_ne_true) ?_
    rintro ⟨k, hk, -⟩
    rw [List.isEmpty_iff.1 hempty] at hk
    cases hk
  · split at h
    · cases h
    · split at h
      · rename_i hheader
        cases h
        exact iff_of_false (by rw [hnone]; exact Bool.false_ne_true) (Jar.header?_eq_none_iff.1 hheader)
      · rename_i cookies hheader
        rw [hnone] at h
        split at h
        · rename_i hhas
          cases hhas
        · split at h
          · cases h
          · cases h
            refine iff_of_true ?_ ?_
            · rw [Header.has_append, Bool.or_eq_true]
              exact .inr rfl
            · by_contra hno
              rw [Jar.header?_eq_none_iff.2 hno] at hheader
              cases hheader

/-- Whether headers as they are given bring cookies. -/
def bringsCookies (headers : List (String × String)) : Bool := headers.any fun p => Header.lowered p.1 = "cookie"

theorem has_request {method url : String} {headers : List (String × String)} {body : List UInt8}
    (h : c.request method url headers body = .ok r) (hnone : bringsCookies headers = false) :
    Header.has "cookie" r.headers = true ↔ c.jar.Matches c.now r.address := by
  rw [request] at h
  obtain ⟨address, -, h⟩ := bind_eq_ok h
  obtain ⟨own, hown, h⟩ := bind_eq_ok h
  obtain ⟨agent, hagent, h⟩ := bind_eq_ok h
  obtain ⟨withCookies, hwith, h⟩ := bind_eq_ok h
  cases h
  have hpairs {pairs : List (String × String)} {out : Headers}
      (h : (Header.ofPairs pairs).mapError Failure.unencodable = .ok out) : Header.ofPairs pairs = .ok out := by
    cases hout : Header.ofPairs pairs with
    | error e =>
      rw [hout] at h
      cases h
    | ok headers =>
      rw [hout] at h
      cases h
      rfl
  -- Neither the agent's line nor the headers given bring cookies, so all there are come from the jar.
  have hboth : Header.has "cookie" (Header.update agent own) = false := by
    have hagent' : Header.has "cookie" agent = false := by
      have hname : Header.lowered "user-agent" ≠ "cookie" := by decide
      rw [Header.has_ofPairs (hpairs hagent), List.any_cons, decide_eq_false hname]
      rfl
    have hkept : Header.has "cookie" (agent.filter fun p => !Header.has p.1 own) = false := by
      rw [Header.has, List.any_eq_false] at hagent' ⊢
      exact fun p hp => hagent' p (List.mem_of_mem_filter hp)
    rw [Header.update, Header.has_append, hkept, Header.has_ofPairs (hpairs hown)]
    exact hnone
  have hcookies := has_withCookies hwith hboth
  dsimp only
  split
  · rw [Header.has_set_of_ne (by decide)]
    exact hcookies
  · exact hcookies

theorem has_redirect {status : Int} {location : String} (h : c.redirect r status location = .ok next) :
    Header.has "cookie" next.headers = true ↔ c.jar.Matches c.now next.address := by
  rw [redirect] at h
  obtain ⟨address, -, h⟩ := bind_eq_ok h
  obtain ⟨headers, hheaders, h⟩ := bind_eq_ok h
  cases h
  exact has_withCookies hheaders Header.has_erase_self

end Client

/-! ## What the network sees -/

/-- A jar after the answer to a request that was sent with it. -/
def Jar.answered (server : Server) (seen : List Request) (r : Request) (now : Int) (j : Jar) : Jar :=
  match server seen r with
  | .ok response => j.take now r.address response.headers
  | .error _ => j

/-- A request as the network saw it: which of two clients sent it, and whether it was made with cookies of its own. -/
structure Sent where
  anonymous : Bool
  own : Bool
  request : Request

/-- The jar that a client has, of what is sent after what was seen, when all is answered: it keeps what is set in answer
to its own requests. -/
def jarOf (server : Server) (anonymous : Bool) (now : Int) : List Request → List Sent → Jar → Jar
  | _, [], j => j
  | seen, x :: rest, j =>
    jarOf server anonymous now (seen ++ [x.request]) rest
      (if x.anonymous = anonymous then j.answered server seen x.request now else j)

/-- What a client sends has a header for cookies if and only if the jar has a cookie for the address by then, unless
it was made with cookies of its own. -/
def Carried (server : Server) (anonymous : Bool) (now : Int) : List Request → List Sent → Jar → Prop
  | _, [], _ => True
  | seen, x :: rest, j =>
    (x.anonymous = anonymous → x.own = false →
      (Header.has "cookie" x.request.headers = true ↔ j.Matches now x.request.address)) ∧
    Carried server anonymous now (seen ++ [x.request]) rest
      (if x.anonymous = anonymous then j.answered server seen x.request now else j)

/-- One request and what responses led to: only the first may have been made with cookies. -/
def Sent.ofRequest (anonymous own : Bool) : List Request → List Sent
  | [] => []
  | r :: rest => ⟨anonymous, own, r⟩ :: rest.map (⟨anonymous, false, ·⟩)

section Log

variable {server : Server} {anonymous : Bool} {now : Int} {seen : List Request} {before after : List Sent} {j : Jar}

theorem jarOf_append : jarOf server anonymous now seen (before ++ after) j =
    jarOf server anonymous now (seen ++ before.map (·.request)) after (jarOf server anonymous now seen before j) := by
  induction before generalizing seen j with
  | nil => simp [jarOf]
  | cons x rest ih => simp [jarOf, ih]

theorem carried_append : Carried server anonymous now seen (before ++ after) j ↔
    Carried server anonymous now seen before j ∧
    Carried server anonymous now (seen ++ before.map (·.request)) after (jarOf server anonymous now seen before j) := by
  induction before generalizing seen j with
  | nil => simp [jarOf, Carried]
  | cons x rest ih => simp [jarOf, Carried, ih, and_assoc]

/-- What the other client sends changes nothing. -/
theorem carried_of_other {sent : List Sent} (h : ∀ x ∈ sent, x.anonymous ≠ anonymous) (seen : List Request) :
    Carried server anonymous now seen sent j ∧ jarOf server anonymous now seen sent j = j := by
  induction sent generalizing seen with
  | nil => exact ⟨trivial, rfl⟩
  | cons x rest ih =>
    rw [List.forall_mem_cons] at h
    obtain ⟨hcarried, hjar⟩ := ih h.2 (seen ++ [x.request])
    rw [Carried, jarOf, if_neg h.1]
    exact ⟨⟨fun hx => absurd hx h.1, hcarried⟩, hjar⟩

end Log

/-! ## Sending -/

namespace Client

variable {server : Server} {α β : Type}

/-- A client after the answer to a request of its own. -/
def answered (server : Server) (seen : List Request) (r : Request) (c : Client) : Client :=
  { c with jar := c.jar.answered server seen r c.now }

theorem run_bind (x : Sending α) (f : α → Sending β) (s : Client × List Request) :
    (x >>= f).run.run s =
      match x.run.run s with
      | (.ok a, t) => (f a).run.run t
      | (.error e, t) => (.error e, t) := by
  simp only [ExceptT.run_bind, StateT.run_bind]
  rcases x.run.run s with ⟨_ | _, t⟩ <;> rfl

theorem run_exchange (r : Request) (c : Client) (seen : List Request) :
    (exchange server r).run.run (c, seen) =
      if r.address.scheme = "http" ∨ r.address.scheme = "https" then
        (server seen r, c.answered server seen r, seen ++ [r])
      else (.error (.network "UnsupportedProtocol" "unsupported protocol"), c, seen) := by
  by_cases hscheme : r.address.scheme = "http" ∨ r.address.scheme = "https"
  · have hsend : (exchange server r).run.run (c, seen) =
        (liftM (server seen r) >>= fun response =>
          set ({ c with jar := c.jar.take c.now r.address response.headers }, seen ++ [r]) >>= fun _ =>
            pure response : Sending Response).run.run (c, seen ++ [r]) := by
      unfold exchange
      rw [if_neg (by simpa [or_iff_not_imp_left] using hscheme)]
      rfl
    rw [if_pos hscheme, hsend, answered, Jar.answered]
    cases server seen r <;> rfl
  · unfold exchange
    rw [if_neg hscheme, if_pos (by simpa [not_or] using hscheme)]
    rfl

/-- What a client that begins with a request leaves: the network saw requests of its own, with the cookies that they
should have, and the jar has what was set in answer to them. -/
def Leaves (server : Server) (anonymous own : Bool) (c : Client) (seen : List Request)
    (s : Client × List Request) : Prop :=
  ∃ new,
    s = ({ c with jar := jarOf server anonymous c.now seen (Sent.ofRequest anonymous own new) c.jar }, seen ++ new) ∧
    Carried server anonymous c.now seen (Sent.ofRequest anonymous own new) c.jar

variable {anonymous own : Bool} {c : Client} {seen : List Request} {r : Request} {s : Client × List Request}

theorem Leaves.nothing : Leaves server anonymous own c seen (c, seen) :=
  ⟨[], by rw [List.append_nil]; rfl, trivial⟩

theorem Leaves.first (hr : own = false → (Header.has "cookie" r.headers = true ↔ c.jar.Matches c.now r.address))
    (h : Leaves server anonymous false (c.answered server seen r) (seen ++ [r]) s) :
    Leaves server anonymous own c seen s := by
  obtain ⟨new, rfl, hcarried⟩ := h
  have hrest : Sent.ofRequest anonymous false new = new.map (⟨anonymous, false, ·⟩) := by cases new <;> rfl
  rw [hrest] at hcarried ⊢
  refine ⟨r :: new, ?_, ?_⟩
  · rw [Sent.ofRequest, jarOf, if_pos rfl, List.append_assoc]
    rfl
  · rw [Sent.ofRequest, Carried, if_pos rfl]
    exact ⟨fun _ => hr, hcarried⟩

theorem leaves_sendOn (hops : Nat)
    (hr : own = false → (Header.has "cookie" r.headers = true ↔ c.jar.Matches c.now r.address)) :
    Leaves server anonymous own c seen ((sendOn server hops r).run.run (c, seen)).2 := by
  -- By how many times the request may be sent on; what a response leads to is made for the jar that it left.
  induction hops generalizing r c seen own with
  | zero => exact .nothing
  | succ hops ih =>
    unfold sendOn
    rw [run_bind, run_exchange]
    by_cases hscheme : r.address.scheme = "http" ∨ r.address.scheme = "https"
    · rw [if_pos hscheme]
      have hfirst {s : Client × List Request}
          (h : Leaves server anonymous false (c.answered server seen r) (seen ++ [r]) s) :
          Leaves server anonymous own c seen s := .first hr h
      cases server seen r with
      | error f => exact hfirst .nothing
      | ok response =>
        dsimp only
        split
        · split
          · exact hfirst .nothing
          · rename_i location _ _
            generalize c.answered server seen r = c' at hfirst ⊢
            change Leaves _ _ _ _ _ ((liftM (c'.redirect r response.status location) >>= fun next =>
              if c'.followsRedirects = true then sendOn server hops next else pure (r, response) :
                Sending (Request × Response)).run.run (c', seen ++ [r])).2
            rw [run_bind]
            cases hnext : c'.redirect r response.status location with
            | error f => exact hfirst .nothing
            | ok next =>
              change Leaves _ _ _ _ _ ((if c'.followsRedirects = true then sendOn server hops next else
                pure (r, response) : Sending (Request × Response)).run.run (c', seen ++ [r])).2
              split
              · exact hfirst (ih fun _ => has_redirect hnext)
              · exact hfirst .nothing
        · exact hfirst .nothing
    · rw [if_neg hscheme]
      exact .nothing

theorem leaves_send (method url : String) (headers : List (String × String)) (body : List UInt8) :
    Leaves server anonymous (bringsCookies headers) c seen
      ((send server method url headers body).run.run (c, seen)).2 := by
  change Leaves _ _ _ _ _ ((liftM (c.request method url headers body) >>= fun r =>
    sendOn server (mostRedirects + 1) r : Sending (Request × Response)).run.run (c, seen)).2
  rw [run_bind]
  cases hr : c.request method url headers body with
  | error f => exact .nothing
  | ok r => exact leaves_sendOn _ (has_request hr)

end Client
end Userscript.Net
