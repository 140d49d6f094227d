import Mathlib.Data.List.InsertIdx
import Mathlib.Data.List.Perm.Basic
import Userscript.Proofs.Session.Flights
import Userscript.Session.Rounds

/-!
# Userscript.Proofs.Session.Traffic

All requests of a page, whoever makes them and whenever the network answers.

Requests are numbered in the order in which they are asked for. At any time the code of any author may run, a waiting
request may have its turn, and any request under way may be answered with anything. A callback may ask for more.

* `Traffic` is a page with its requests under way and what became of all that were asked for, `Traffic.move` what may
  happen next;
* `Accounted` is the invariant: each number is in one place, `Accounted.move` and `Accounted.after`: so it stays;
* `Session.exists_moves_runUntil`: to do all jobs of a page is one course that this may take;
* `Session.answered_once`: when nothing is pending, each request was begun once and ended once, and its script was told
  what came of it if the news got as far as that.
-/

namespace Userscript

open Machine Net

namespace Session

variable {σ : Type} {set : Setting σ} {a : Author} {d : Relay.Details} {s t : Session σ}

/-! ## Requests that wait -/

def Job.request? : Job → Option (Author × Relay.Details)
  | .request a d => some (a, d)
  | _ => none

/-- The requests that wait for their turns, oldest first. -/
def asks (s : Session σ) : List (Author × Relay.Details) := s.queue.filterMap Job.request?

theorem pending_eq (s : Session σ) : s.pending = s.asks.length := by
  rw [asks, List.length_filterMap_eq_countP, pending]
  refine congrArg (List.countP · s.queue) (funext fun j => ?_)
  cases j <;> rfl

/-- The queue without one of the requests in it. -/
def withoutRequest : Nat → List Job → List Job
  | _, [] => []
  | 0, .request _ _ :: rest => rest
  | i + 1, .request a d :: rest => .request a d :: withoutRequest i rest
  | i, j :: rest => j :: withoutRequest i rest

theorem requests_withoutRequest (i : Nat) (queue : List Job) :
    (withoutRequest i queue).filterMap Job.request? = (queue.filterMap Job.request?).eraseIdx i := by
  induction queue generalizing i with
  | nil => cases i <;> rfl
  | cons j rest ih =>
    cases j with
    | request a d =>
      cases i with
      | zero => rfl
      | succ i => exact congrArg ((a, d) :: ·) (ih i)
    | _ => cases i <;> exact ih _

/-- Whatever an author does, requests that wait go on waiting, and new ones come behind them. -/
theorem Confined.asks (h : Confined a s t) : s.asks <+: t.asks := by
  obtain ⟨requests, queued⟩ := h.queue
  rw [Session.asks, Session.asks, queued, List.filterMap_append]
  exact List.prefix_append _ _

theorem confined_conclude (set : Setting σ) (a : Author) (d : Relay.Details) (n : Relay.News) (s : Session σ) :
    Confined a s (s.conclude set a d n) :=
  conclude_keeps (fun x t h => h.trans (confined_act set a x t)) (fun line t h => h.trans (.write line t)) d n
    (.refl a s)

theorem confined_ready (set : Setting σ) (a : Author) (d : Relay.Details) (s : Session σ) :
    Confined a s (s.ready set a d).2 :=
  ready_keeps (fun x t h => h.trans (confined_act set a x t)) d (.refl a s)

/-- The turn of a request is code of its author. -/
theorem confined_launch (set : Setting σ) (a : Author) (d : Relay.Details) (s : Session σ) :
    Confined a s (s.launch set a d).2 := by
  have made := confined_ready set a d s
  unfold launch
  split
  · next ready =>
    rw [ready] at made
    exact made
  · next ready =>
    rw [ready] at made
    split <;> exact made

theorem land_snd (f : Flight) (answer : Except Failure Response) (s : Session σ) :
    (s.land f answer).2 = s.answered f answer := by
  unfold land
  cases answer with
  | error e => rfl
  | ok response =>
    dsimp only
    split
    · rfl
    · rfl
    · split <;> rfl

/-- A request under way is the one that had its turn, and nothing led it on yet. -/
theorem launch_flies {f : Flight} (flies : (s.launch set a d).1 = .inr f) :
    f.author = a ∧ f.details = d ∧ f.hops = mostRedirects := by
  unfold launch at flies
  split at flies
  · cases flies
  · split at flies
    · cases flies
    · cases flies
      exact ⟨rfl, rfl, rfl⟩

/-- A request that an answer leads on is the same request, and may be led on one time less. -/
theorem land_flies {f g : Flight} {answer : Except Failure Response} (flies : (s.land f answer).1 = .inr g) :
    g.author = f.author ∧ g.details = f.details ∧ g.hops + 1 = f.hops := by
  unfold land at flies
  dsimp only at flies
  split at flies
  · cases flies
  · split at flies
    · cases flies
    · cases flies
    · split at flies
      · cases flies
      · next hops =>
        cases flies
        exact ⟨rfl, rfl, hops.symm⟩

end Session

/-! ## Traffic -/

/-- A request that is over: the page to which news of it came, and the page after its script was told. -/
structure Ended (σ : Type) where
  number : Nat
  news : Relay.News
  page : Session σ
  after : Session σ

/-- A page with its requests under way, and what became of all that were asked for. -/
structure Traffic (σ : Type) where
  page : Session σ
  /-- All requests that were asked for, in order. -/
  asked : List (Author × Relay.Details)
  /-- The numbers of those that wait for their turns, oldest first. -/
  waiting : List Nat
  flying : List (Nat × Flight) := []
  /-- The numbers of those that had their turns, in the order of these. -/
  begun : List Nat := []
  ended : List (Ended σ) := []
  /-- How often a request had its turn or was answered. -/
  turns : Nat := 0

namespace Traffic

inductive Move where
  /-- Code of an author runs. -/
  | code (a : Author) (x : Act Unit)
  /-- A request is handed in from outside. -/
  | take (a : Author) (d : Relay.Details)
  /-- One of the waiting requests has its turn. -/
  | launch (i : Nat)
  /-- One of the requests under way is answered, or fails. -/
  | land (i : Nat) (answer : Except Failure Response)

variable {σ : Type}

/-- A page before anything happens, on which requests may wait. -/
def start (s : Session σ) : Traffic σ := { page := s, asked := s.asks, waiting := List.range s.asks.length }

/-- How many requests are not over. -/
def pending (r : Traffic σ) : Nat := r.page.pending + r.flying.length

/-- The page went on: requests that are new in its queue are numbered. -/
def on (s : Session σ) (r : Traffic σ) : Traffic σ :=
  let new := s.asks.drop r.waiting.length
  { r with
    page := s
    asked := r.asked ++ new
    waiting := r.waiting ++ (List.range new.length).map (r.asked.length + ·) }

/-- A request that had its turn or was answered is under way, or its script is told what came of it. -/
def place (set : Setting σ) (n : Nat) (a : Author) (d : Relay.Details) (r : Traffic σ) :
    (Relay.News ⊕ Flight) × Session σ → Traffic σ
  | (.inl news, s) =>
    let t := s.conclude set a d news
    { r.on t with ended := r.ended ++ [⟨n, news, s, t⟩] }
  | (.inr f, s) => { r.on s with flying := r.flying ++ [(n, f)] }

/-- Takes one of the waiting requests out. -/
def taken (i n : Nat) (r : Traffic σ) : Traffic σ :=
  { r with
    page := { r.page with queue := Session.withoutRequest i r.page.queue }
    waiting := r.waiting.eraseIdx i
    begun := r.begun ++ [n]
    turns := r.turns + 1 }

/-- Takes one of the requests under way out. -/
def caught (i : Nat) (r : Traffic σ) : Traffic σ := { r with flying := r.flying.eraseIdx i, turns := r.turns + 1 }

/-- What a move comes to; a request that is not there has no turn. -/
def move (set : Setting σ) (r : Traffic σ) : Move → Traffic σ
  | .code a x => r.on (r.page.act set a x).2
  | .take a d => r.on (r.page.take a d)
  | .launch i =>
    match r.waiting[i]?, r.page.asks[i]? with
    | some n, some (a, d) => (r.taken i n).place set n a d ((r.taken i n).page.launch set a d)
    | _, _ => r
  | .land i answer =>
    match r.flying[i]? with
    | some (n, f) => (r.caught i).place set n f.author f.details (r.page.land f answer)
    | none => r

/-- What moves come to, one after another. -/
def after (set : Setting σ) : List Move → Traffic σ → Traffic σ
  | [], r => r
  | m :: rest, r => after set rest (r.move set m)

variable (set : Setting σ) (n : Nat) (a : Author) (d : Relay.Details) (r : Traffic σ)
  (x : (Relay.News ⊕ Flight) × Session σ)

theorem turns_place : (r.place set n a d x).turns = r.turns := by
  obtain ⟨news | f, t⟩ := x <;> rfl

theorem asked_place : r.asked <+: (r.place set n a d x).asked := by
  obtain ⟨news | f, t⟩ := x <;> exact List.prefix_append _ _

/-- Requests keep their numbers. -/
theorem asked_move (m : Move) : r.asked <+: (r.move set m).asked := by
  cases m with
  | code a x => exact List.prefix_append _ _
  | take a d => exact List.prefix_append _ _
  | launch i =>
    rw [move]
    split
    · next n a d _ _ => exact asked_place set n a d (r.taken i n) _
    · exact List.prefix_refl _
  | land i answer =>
    rw [move]
    split
    · next n f _ => exact asked_place set n f.author f.details (r.caught i) _
    · exact List.prefix_refl _

theorem asked_after (moves : List Move) : r.asked <+: (after set moves r).asked := by
  induction moves generalizing r with
  | nil => exact List.prefix_refl _
  | cons m rest ih => exact (asked_move set r m).trans (ih _)

end Traffic

namespace Ended

variable {σ : Type}

/-- The news are what came of a request, in its turn or in an answer to it. -/
def Came (set : Setting σ) (a : Author) (d : Relay.Details) (e : Ended σ) : Prop :=
  (∃ s : Session σ, s.launch set a d = (.inl e.news, e.page)) ∨
  ∃ (f : Flight) (answer : Except Failure Response) (s : Session σ),
    f.author = a ∧ f.details = d ∧ s.land f answer = (.inl e.news, e.page)

/-- The request is one that was asked for, its news are what came of it, and its script was told of them. -/
def Fits (set : Setting σ) (asked : List (Author × Relay.Details)) (e : Ended σ) : Prop :=
  ∃ a d, asked[e.number]? = some (a, d) ∧ e.Came set a d ∧ e.after = e.page.conclude set a d e.news

end Ended

/-! ## The invariant -/

/-- Each request that was asked for is in one place, but for numbers that are taken out, and there are turns left for
all that are not over, with some to spare. -/
structure Accounted {σ : Type} (set : Setting σ) (out : List Nat) (spare : Nat) (r : Traffic σ) : Prop where
  waiting : r.waiting.map (r.asked[·]?) = r.page.asks.map some
  flying : ∀ p ∈ r.flying, r.asked[p.1]? = some (p.2.author, p.2.details)
  ended : ∀ e ∈ r.ended, e.Fits set r.asked
  places : (r.waiting ++ r.flying.map Prod.fst ++ r.ended.map Ended.number ++ out).Perm (List.range r.asked.length)
  begun : r.begun.Perm (r.flying.map Prod.fst ++ r.ended.map Ended.number ++ out)
  turns : r.turns + r.waiting.length * (mostRedirects + 2) + (r.flying.map (·.2.hops + 1)).sum + spare ≤
    r.asked.length * (mostRedirects + 2)

namespace Accounted

variable {σ : Type} {set : Setting σ} {r : Traffic σ} {s : Session σ} {out : List Nat} {spare n i : Nat}

/-- The numbers of a list find all of it, behind what is there already. -/
theorem map_getElem?_range {α : Type} (front back : List α) :
    ((List.range back.length).map (front.length + ·)).map ((front ++ back)[·]?) = back.map some := by
  refine List.ext_getElem (by simp) fun i left right => ?_
  have inside : i < back.length := by simpa using right
  simp [inside]

theorem start (set : Setting σ) (s : Session σ) : Accounted set [] 0 (.start s) where
  waiting := by simpa [Traffic.start] using map_getElem?_range [] s.asks
  flying p mem := by cases mem
  ended e mem := by cases mem
  places := by simp only [Traffic.start, List.map_nil, List.append_nil, List.Perm.refl]
  begun := .refl []
  turns := by
    simp only [Traffic.start, List.length_range, List.map_nil, List.sum_nil, Nat.zero_add, Nat.add_zero, Nat.le_refl]

/-- A number in a place is that of a request that was asked for. -/
theorem lt_of_mem (h : Accounted set out spare r)
    (mem : n ∈ r.waiting ++ r.flying.map Prod.fst ++ r.ended.map Ended.number ++ out) : n < r.asked.length :=
  List.mem_range.mp (h.places.mem_iff.mp mem)

theorem length_waiting (h : Accounted set out spare r) : r.waiting.length = r.page.asks.length := by
  simpa using congrArg List.length h.waiting

/-- More requests are asked for: those that are new in the queue wait, under new numbers. -/
theorem on (h : Accounted set out spare r) (grown : r.page.asks <+: s.asks) : Accounted set out spare (r.on s) := by
  obtain ⟨new, asks⟩ := grown
  have dropped : s.asks.drop r.waiting.length = new := by
    rw [h.length_waiting, ← asks, List.drop_left]
  have kept {k : Nat} {x : Author × Relay.Details} (asked : r.asked[k]? = some x) : (r.asked ++ new)[k]? = some x := by
    rw [List.getElem?_append_left (List.getElem?_eq_some_iff.mp asked).1, asked]
  unfold Traffic.on
  rw [dropped]
  refine ⟨?_, fun p mem => kept (h.flying p mem), fun e mem => ?_, ?_, h.begun, ?_⟩
  · have old : r.waiting.map ((r.asked ++ new)[·]?) = r.page.asks.map some := by
      rw [← h.waiting]
      refine List.map_congr_left fun n mem => List.getElem?_append_left (h.lt_of_mem ?_)
      simp only [List.mem_append, mem, true_or]
    rw [List.map_append, old, map_getElem?_range, ← List.map_append, asks]
  · obtain ⟨a, d, asked, came, told⟩ := h.ended e mem
    exact ⟨a, d, kept asked, came, told⟩
  · rw [List.length_append, List.range_add, List.perm_iff_count]
    intro n
    have places := h.places.count_eq n
    simp only [List.count_append] at places ⊢
    omega
  · have turns := h.turns
    simp only [List.length_append, List.length_map, List.length_range, Nat.add_mul] at turns ⊢
    omega

/-- An item of a list and the others. -/
theorem count_eraseIdx {l : List Nat} (at_i : l[i]? = some n) (m : Nat) :
    l.count m = (l.eraseIdx i).count m + [n].count m := by
  obtain ⟨inside, rfl⟩ := List.getElem?_eq_some_iff.mp at_i
  rw [← (List.getElem_cons_eraseIdx_perm inside).count_eq m, Nat.add_comm, ← List.count_append, List.singleton_append]

/-- A request that waited is taken out for its turn, and may be answered as often as responses may lead it on. -/
theorem taken (h : Accounted set [] 0 r) (at_i : r.waiting[i]? = some n) :
    Accounted set [n] (mostRedirects + 1) (r.taken i n) := by
  have inside : i < r.waiting.length := (List.getElem?_eq_some_iff.mp at_i).1
  refine ⟨?_, h.flying, h.ended, ?_, ?_, ?_⟩
  · have asks : (r.taken i n).page.asks = r.page.asks.eraseIdx i := Session.requests_withoutRequest i r.page.queue
    rw [asks, ← List.eraseIdx_map, ← h.waiting, List.eraseIdx_map]
    rfl
  · rw [List.perm_iff_count]
    intro m
    have places := h.places.count_eq m
    have others := count_eraseIdx at_i m
    simp only [List.count_append, List.count_nil] at places ⊢
    simp only [Traffic.taken] at places ⊢
    omega
  · have begun := h.begun
    rw [List.append_nil] at begun
    exact begun.append_right [n]
  · have turns := h.turns
    have shorter : (r.waiting.eraseIdx i).length + 1 = r.waiting.length := by
      rw [List.length_eraseIdx_of_lt inside]
      omega
    simp only [Traffic.taken, ← shorter, Nat.add_mul] at turns ⊢
    omega

/-- A request under way is taken out to be answered. -/
theorem caught {f : Flight} (h : Accounted set [] 0 r) (at_i : r.flying[i]? = some (n, f)) :
    Accounted set [n] f.hops (r.caught i) := by
  have inside : i < r.flying.length := (List.getElem?_eq_some_iff.mp at_i).1
  have others (m : Nat) :
      (r.flying.map Prod.fst).count m = ((r.flying.eraseIdx i).map Prod.fst).count m + [n].count m := by
    rw [← List.eraseIdx_map]
    exact count_eraseIdx (by rw [List.getElem?_map, at_i]; rfl) m
  -- The number leaves those under way and is the one out, so that each place is counted as before.
  refine ⟨h.waiting, fun p mem => h.flying p (List.mem_of_mem_eraseIdx mem), h.ended, ?_, ?_, ?_⟩
  · rw [List.perm_iff_count]
    intro m
    have places := h.places.count_eq m
    have others := others m
    simp only [List.count_append, List.count_nil] at places ⊢
    simp only [Traffic.caught] at places ⊢
    omega
  · rw [List.perm_iff_count]
    intro m
    have begun := h.begun.count_eq m
    have others := others m
    simp only [List.count_append, List.count_nil] at begun ⊢
    simp only [Traffic.caught] at begun ⊢
    omega
  · have turns := h.turns
    have left : (r.flying.map (·.2.hops + 1)).sum = ((r.flying.eraseIdx i).map (·.2.hops + 1)).sum + (f.hops + 1) := by
      have whole := (List.getElem_cons_eraseIdx_perm inside).map (·.2.hops + 1)
      rw [← whole.sum_nat, List.map_cons, List.sum_cons, (List.getElem?_eq_some_iff.mp at_i).2, Nat.add_comm]
    rw [left] at turns
    simp only [Traffic.caught] at turns ⊢
    omega

/-- A request that was taken out is under way, if it has answers to spare. -/
theorem flies {f : Flight} (h : Accounted set [n] spare r) (asked : r.asked[n]? = some (f.author, f.details))
    (left : f.hops + 1 ≤ spare) : Accounted set [] 0 { r with flying := r.flying ++ [(n, f)] } := by
  refine ⟨h.waiting, fun p mem => ?_, h.ended, ?_, ?_, ?_⟩
  · rcases List.mem_append.mp mem with before | new
    · exact h.flying p before
    · rw [List.mem_singleton.mp new]
      exact asked
  · rw [List.perm_iff_count]
    intro m
    have places := h.places.count_eq m
    simp only [List.map_append, List.map_cons, List.map_nil, List.count_append, List.count_nil] at places ⊢
    omega
  · rw [List.perm_iff_count]
    intro m
    have begun := h.begun.count_eq m
    simp only [List.map_append, List.map_cons, List.map_nil, List.count_append, List.count_nil] at begun ⊢
    omega
  · have turns := h.turns
    simp only [List.map_append, List.map_cons, List.map_nil, List.sum_append, List.sum_singleton] at turns ⊢
    omega

/-- A request that was taken out is over. -/
theorem ends {e : Ended σ} (h : Accounted set [e.number] spare r) (fits : e.Fits set r.asked) :
    Accounted set [] 0 { r with ended := r.ended ++ [e] } := by
  refine ⟨h.waiting, h.flying, fun x mem => ?_, ?_, ?_, ?_⟩
  · rcases List.mem_append.mp mem with before | new
    · exact h.ended x before
    · rw [List.mem_singleton.mp new]
      exact fits
  · have places := h.places
    simpa only [List.map_append, List.map_cons, List.map_nil, List.append_assoc, List.append_nil] using places
  · have begun := h.begun
    simpa only [List.map_append, List.map_cons, List.map_nil, List.append_assoc, List.append_nil] using begun
  · have turns := h.turns
    dsimp only at turns ⊢
    omega

/-- A request that was taken out is under way again, or over. -/
theorem placed {a : Author} {d : Relay.Details} {x : (Relay.News ⊕ Flight) × Session σ} (h : Accounted set [n] spare r)
    (asked : r.asked[n]? = some (a, d)) (grown : r.page.asks <+: x.2.asks)
    (left : ∀ f, x.1 = .inr f → f.author = a ∧ f.details = d ∧ f.hops + 1 ≤ spare)
    (came : ∀ e : Ended σ, x = (.inl e.news, e.page) → e.Came set a d) : Accounted set [] 0 (r.place set n a d x) := by
  have kept (t : Session σ) : (r.on t).asked[n]? = some (a, d) := by
    rw [← asked]
    exact List.getElem?_append_left (List.getElem?_eq_some_iff.mp asked).1
  obtain ⟨news | f, t⟩ := x
  · have told := h.on (grown.trans (Session.confined_conclude set a d news t).asks)
    exact told.ends (e := ⟨n, news, t, t.conclude set a d news⟩) ⟨a, d, kept _, came _ rfl, rfl⟩
  · obtain ⟨rfl, rfl, spare⟩ := left f rfl
    exact (h.on grown).flies (kept t) spare

/-- Whatever happens next, each request is in one place. -/
theorem move (h : Accounted set [] 0 r) (m : Traffic.Move) : Accounted set [] 0 (r.move set m) := by
  cases m with
  | code a x => exact h.on (Session.confined_act set a x r.page).asks
  | take a d => exact h.on (Session.Confined.send d r.page).asks
  | launch i =>
    rw [Traffic.move]
    split
    · next n a d at_i asks_i =>
      have asked : r.asked[n]? = some (a, d) := by
        have found := congrArg (·[i]?) h.waiting
        simpa only [List.getElem?_map, at_i, asks_i, Option.map_some, Option.some.injEq] using found
      -- A turn sends the request, with answers to spare, or ends it.
      refine (h.taken at_i).placed asked (Session.confined_launch set a d _).asks (fun f flies => ?_) fun e came => ?_
      · obtain ⟨author, details, hops⟩ := Session.launch_flies flies
        exact ⟨author, details, Nat.le_of_eq (congrArg (· + 1) hops)⟩
      · exact .inl ⟨_, came⟩
    · exact h
  | land i answer =>
    rw [Traffic.move]
    split
    · next n f at_i =>
      have asked : r.asked[n]? = some (f.author, f.details) := h.flying _ (List.mem_of_getElem? at_i)
      refine (h.caught at_i).placed asked ?_ (fun g flies => ?_) fun e came => ?_
      · rw [Session.land_snd]
        exact List.prefix_refl _
      · obtain ⟨author, details, hops⟩ := Session.land_flies flies
        exact ⟨author, details, Nat.le_of_eq hops⟩
      · exact .inr ⟨f, answer, _, rfl, rfl, came⟩
    · exact h

/-- Whatever happens, each request is in one place. -/
theorem after (h : Accounted set [] 0 r) (moves : List Traffic.Move) : Accounted set [] 0 (Traffic.after set moves r) := by
  induction moves generalizing r with
  | nil => exact h
  | cons m rest ih => exact ih (h.move m)

theorem pending_eq (h : Accounted set out spare r) : r.pending = r.waiting.length + r.flying.length := by
  rw [Traffic.pending, Session.pending_eq, h.length_waiting]

/-- Any request that waits may have its turn, whatever became of others. -/
theorem turns_launch (h : Accounted set out spare r) (inside : i < r.waiting.length) :
    (r.move set (.launch i)).turns = r.turns + 1 := by
  have asks : i < r.page.asks.length := h.length_waiting ▸ inside
  simp only [Traffic.move, List.getElem?_eq_getElem inside, List.getElem?_eq_getElem asks, Traffic.turns_place]
  rfl

/-- Any request under way may be answered, whatever became of others. -/
theorem turns_land (inside : i < r.flying.length) (answer : Except Failure Response) :
    (r.move set (.land i answer)).turns = r.turns + 1 := by
  simp only [Traffic.move, List.getElem?_eq_getElem inside, Traffic.turns_place]
  rfl

end Accounted

/-! ## Answers at once -/

namespace Traffic

variable {σ : Type} {set : Setting σ} {r : Traffic σ} {a : Author} {d : Relay.Details}

theorem after_append (before later : List Move) :
    after set (before ++ later) r = after set later (after set before r) := by
  induction before generalizing r with
  | nil => rfl
  | cons m rest ih => exact ih

/-- What is under way alone comes to its end, if the network answers at once. -/
theorem exists_landings (set : Setting σ) {n : Nat} {f : Flight} (alone : r.flying = [(n, f)]) :
    ∃ moves, (after set moves r).flying = [] ∧
      (after set moves r).page =
        (r.page.landed set f).2.conclude set f.author f.details (r.page.landed set f).1 := by
  -- By how often it may be led on: each answer that does so leaves the same request under way, alone.
  induction hops : f.hops using Nat.strongRecOn generalizing r f with
  | _ k ih =>
    have first : (r.move set (.land 0 (r.page.answerTo set f))) =
        (r.caught 0).place set n f.author f.details (r.page.land f (r.page.answerTo set f)) := by
      simp only [move, alone, List.getElem?_cons_zero]
    have others : (r.caught 0).flying = [] := by
      rw [caught, alone]
      rfl
    rw [Session.landed_eq]
    cases landed : r.page.land f (r.page.answerTo set f) with
    | mk x t =>
      rw [landed] at first
      cases x with
      | inl news => exact ⟨[.land 0 (r.page.answerTo set f)], by rw [after, after, first]; exact ⟨others, rfl⟩⟩
      | inr g =>
        obtain ⟨author, details, fewer⟩ := Session.land_flies (congrArg Prod.fst landed)
        have under : (r.move set (.land 0 (r.page.answerTo set f))).flying = [(n, g)] := by
          rw [first, place, others]
          rfl
        obtain ⟨moves, quiet, page⟩ := ih g.hops (by omega) under rfl
        refine ⟨.land 0 (r.page.answerTo set f) :: moves, quiet, page.trans ?_⟩
        rw [first, author, details]
        rfl

/-- The oldest request is made ready, sent and answered, and its script is told, as it is when nothing comes between. -/
theorem exists_performance (h : Accounted set [] 0 r) (still : r.flying = []) {rest : List Session.Job}
    (queue : r.page.queue = .request a d :: rest) :
    ∃ moves, (after set moves r).flying = [] ∧
      (after set moves r).page = { r.page with queue := rest }.perform set a d := by
  have asks : r.page.asks = (a, d) :: rest.filterMap Session.Job.request? := by
    rw [Session.asks, queue]
    rfl
  cases waiting : r.waiting with
  | nil =>
    have length := h.length_waiting
    rw [waiting, asks] at length
    cases length
  | cons n more =>
    have first : r.move set (.launch 0) = (r.taken 0 n).place set n a d ((r.taken 0 n).page.launch set a d) := by
      simp only [move, waiting, asks, List.getElem?_cons_zero]
    have page : (r.taken 0 n).page = { r.page with queue := rest } := by
      rw [taken, queue]
      rfl
    have others : (r.taken 0 n).flying = [] := still
    rw [page] at first
    -- One turn, and then the answers to the request alone, for nothing else is under way.
    rw [Session.perform, Session.attempt_eq]
    cases launched : { r.page with queue := rest }.launch set a d with
    | mk x t =>
      rw [launched] at first
      cases x with
      | inl news => exact ⟨[.launch 0], by rw [after, after, first]; exact ⟨others, rfl⟩⟩
      | inr f =>
        obtain ⟨author, details, -⟩ := Session.launch_flies (congrArg Prod.fst launched)
        have under : (r.move set (.launch 0)).flying = [(n, f)] := by
          rw [first, place, others]
          rfl
        obtain ⟨moves, quiet, ended⟩ := exists_landings set under
        refine ⟨.launch 0 :: moves, quiet, ended.trans ?_⟩
        rw [first, author, details]
        rfl

end Traffic

namespace Session

variable {σ : Type} {set : Setting σ} {s : Session σ}

/-- Nothing but requests waits. -/
def OnlyRequests (s : Session σ) : Prop := ∀ j ∈ s.queue, j.request?.isSome = true

theorem OnlyRequests.perform (h : OnlyRequests s) (set : Setting σ) (a : Author) (d : Relay.Details) :
    OnlyRequests (s.perform set a d) := by
  refine perform_keeps (P := OnlyRequests) (fun x t ht => ?_) (fun _ _ ht => ht) (fun _ _ ht => ht) d h
  obtain ⟨requests, queued⟩ := (confined_act set a x t).queue
  intro j mem
  rw [queued, List.mem_append] at mem
  rcases mem with mem | mem
  · exact ht j mem
  · obtain ⟨_, -, rfl⟩ := List.mem_map.mp mem
    rfl

/-- To do all jobs is one course that the traffic may take. -/
theorem exists_moves_runUntil (fuel : Nat) {r : Traffic σ} (h : Accounted set [] 0 r) (still : r.flying = [])
    (only : OnlyRequests r.page) :
    ∃ moves, (Traffic.after set moves r).flying = [] ∧
      (Traffic.after set moves r).page = (r.page.runUntil set (fun _ _ => false) fuel).2 := by
  induction fuel generalizing r with
  | zero => exact ⟨[], still, rfl⟩
  | succ fuel ih =>
    rw [runUntil, step]
    cases queue : r.page.queue with
    | nil => exact ⟨[], still, rfl⟩
    | cons j rest =>
      have first := only j (by rw [queue]; exact List.mem_cons_self)
      cases j with
      | request a d =>
        obtain ⟨moves, quiet, page⟩ := Traffic.exists_performance h still queue
        have left : OnlyRequests { r.page with queue := rest } :=
          fun j mem => only j (by rw [queue]; exact List.mem_cons_of_mem _ mem)
        obtain ⟨later, quiet', page'⟩ := ih (h.after moves) quiet (by rw [page]; exact left.perform set a d)
        refine ⟨moves ++ later, by rw [Traffic.after_append]; exact quiet', ?_⟩
        rw [Traffic.after_append, page', page]
        rfl
      | _ => cases first

/-! ## Each request is answered once -/

/-- What is logged of how a callback ended: the error that it raised, if it has words. -/
def complaint (n : Relay.News) (m : Memory) : Except Trouble Value → Log
  | .error (.raised e) =>
    if m.isWritable e then
      [.warn ("[Relay] " ++ n.event ++ " callback raised " ++ m.typeName e ++ ": " ++ m.display e)]
    else []
  | _ => []

/-- A callback is called once, and its complaint is logged. -/
theorem tell_eq (set : Setting σ) (a : Author) (n : Relay.News) (f : Value) (s : Session σ) :
    s.tell set a n f =
      let (answer, t) := s.act set a do
        let v ← n.make
        calls.call f [v] []
      { t with log := t.log ++ complaint n t.memory answer } := by
  have same (t : Session σ) : t = { t with log := t.log ++ [] } := by rw [List.append_nil]
  unfold tell
  rcases s.act set a _ with ⟨(e | -) | v, t⟩
  · dsimp only [complaint]
    split
    · rfl
    · exact same t
  · exact same t
  · exact same t

/-- Each request of a page is answered once. Let requests wait on a page, and let anything happen from then on: code of
authors runs, requests are handed in, waiting requests have their turns in any order, and those under way are answered
with anything in any order.

Then each request that was asked for, before or meanwhile, waits, is under way or is over, once, under the number that
it has; those that are not waiting had their turns, once. There are only so many turns and answers for the requests that
were asked for, and whatever happened to the others, each that waits may have its turn, and each that is under way may
be answered. So if no more are asked for, nothing is pending in the end, and then each was begun once and is over once.

The news of a request that is over are what came of its turn or of an answer to it. If they do not get as far as the
script, nobody is told. If they do, what the details name for `onload` or for `onerror`, whichever the news are, is
called with them once, unless it cannot be called; nothing else happens, but that an error in it is logged if it has
words.

To do all jobs of a page on which nothing but requests waits is one such course. -/
theorem answered_once (set : Setting σ) (s : Session σ) :
    (∀ moves : List Traffic.Move,
      let r := Traffic.after set moves (.start s)
      s.asks <+: r.asked ∧
      (r.waiting ++ r.flying.map Prod.fst ++ r.ended.map Ended.number).Perm (List.range r.asked.length) ∧
      r.begun.Perm (r.flying.map Prod.fst ++ r.ended.map Ended.number) ∧
      r.turns ≤ r.asked.length * (mostRedirects + 2) ∧
      r.pending = r.waiting.length + r.flying.length ∧
      (∀ i < r.waiting.length, (r.move set (.launch i)).turns = r.turns + 1) ∧
      (∀ i < r.flying.length, ∀ answer, (r.move set (.land i answer)).turns = r.turns + 1) ∧
      (r.pending = 0 → r.begun.Perm (List.range r.asked.length) ∧
        (r.ended.map Ended.number).Perm (List.range r.asked.length)) ∧
      ∀ e ∈ r.ended, ∃ a d, r.asked[e.number]? = some (a, d) ∧ e.Came set a d ∧
        (e.news.reaches d e.page.memory = false → e.after = e.page) ∧
        (e.news.reaches d e.page.memory = true →
          (e.page.listener? d e.news.event = none → e.after = e.page) ∧
          ∀ f, e.page.listener? d e.news.event = some f →
            let (answer, t) := e.page.act set a do
              let v ← e.news.make
              calls.call f [v] []
            e.after = { t with log := t.log ++ complaint e.news t.memory answer })) ∧
    (OnlyRequests s → ∃ moves,
      (Traffic.after set moves (.start s)).flying = [] ∧ (Traffic.after set moves (.start s)).page = s.settle set) := by
  refine ⟨fun moves => ?_, exists_moves_runUntil patience (.start set s) rfl⟩
  intro r
  have h : Accounted set [] 0 r := (Accounted.start set s).after moves
  -- No request is out: each number that was given is among those waiting, under way or over, once.
  have places := h.places
  have begun := h.begun
  have turns := h.turns
  rw [List.append_nil] at places begun
  refine ⟨Traffic.asked_after set (.start s) moves, places, begun, by omega, h.pending_eq,
    fun i inside => h.turns_launch inside, fun i inside answer => Accounted.turns_land inside answer, fun none => ?_,
    fun e mem => ?_⟩
  · have empty := h.pending_eq
    rw [none, eq_comm, Nat.add_eq_zero_iff, List.length_eq_zero_iff, List.length_eq_zero_iff] at empty
    obtain ⟨waiting, flying⟩ := empty
    rw [waiting, flying, List.map_nil, List.nil_append, List.nil_append] at places
    rw [flying, List.map_nil, List.nil_append] at begun
    exact ⟨begun.trans places, places⟩
  · obtain ⟨a, d, asked, came, told⟩ := h.ended e mem
    refine ⟨a, d, asked, came, fun lost => ?_, fun reaches => ⟨fun nobody => ?_, fun f somebody => ?_⟩⟩
    · rw [told, conclude, hearer?, lost]
      rfl
    · rw [told, conclude, hearer?, if_pos reaches, nobody]
    · rw [told, conclude, hearer?, if_pos reaches, somebody]
      exact tell_eq set a e.news f e.page

/-- A request for an address that is a number with too many digits, with a callback for errors that can be called: it is
over after its turn, and nobody is told. -/
theorem answered_once_lost :
    let set : Setting Unit :=
      { bridge := { select := fun _ _ n => (.ok [], [], n), laps := fun _ => 0, report := fun _ _ n => (.ok (), n) } }
    let a : Author := { id := some 1, label := "s", scope := { keyStart := "", owner := .int 1, origin := "" } }
    let d : Relay.Details := [(.str "url", .int (Nat.pow 10 5000 : Nat)), (.str "onerror", .builtin .print)]
    let s : Session Unit :=
      { document := { url := "https://a.test/" }, storage := { quota := 1024 }, relay := .new [] "" true, engine := ()
        queue := [.request a d] }
    let r := Traffic.after set [.launch 0] (.start s)
    r.pending = 0 ∧ ∃ e, r.ended = [e] ∧ e.number = 0 ∧ e.news.event = "onerror" ∧
      (e.page.listener? d "onerror").isSome = true ∧ e.after = e.page := by
  intro set a d s r
  have facts : r.pending = 0 ∧ r.ended.map (fun e => (e.number, e.news.event,
      (e.page.listener? d "onerror").isSome, e.news.reaches d e.page.memory)) = [(0, "onerror", true, false)] := by
    decide +kernel
  obtain ⟨pending, ended⟩ := facts
  obtain ⟨e, rest, single, first, last⟩ := List.map_eq_cons_iff.mp ended
  obtain rfl := List.map_eq_nil_iff.mp last
  simp only [Prod.mk.injEq] at first
  obtain ⟨number, event, callable, lost⟩ := first
  have mem : e ∈ (Traffic.after set [.launch 0] (.start s)).ended := single ▸ List.mem_singleton_self e
  obtain ⟨⟨later, all⟩, -, -, -, -, -, -, -, each⟩ := (answered_once set s).1 [.launch 0]
  obtain ⟨_, d', asked, -, untold, -⟩ := each e mem
  have same : d = d' := by
    rw [number, ← all] at asked
    exact congrArg Prod.snd (Option.some.inj asked)
  rw [← same] at untold
  exact ⟨pending, e, single, number, event, callable, untold lost⟩

end Session
end Userscript
