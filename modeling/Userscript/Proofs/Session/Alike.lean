import Userscript.Proofs.Session.Phases

/-!
# Userscript.Proofs.Session.Alike

A page goes by the area of its own origin.

Of all that is stored, a page reads the area of its origin only, and it changes no other area. So two courses of a page
that differ in what other origins store go on in the same way, whatever happens.

* `Alike` is what holds of two such courses, and `Alike.change`: what does not look at the storage keeps it;
* `Alike.host`: nor does any dialogue of a script of the page tell the two apart;
* `Alike.work` and `Alike.move`: no job does, and nothing that may happen to the page.
-/

namespace Userscript

open Machine

/-! ## Storage -/

namespace Storage

/-- Storages that hold the same in the area of an origin. -/
structure AlikeIn (origin : String) (s t : Storage) : Prop where
  quota : t.quota = s.quota
  area : t.area origin = s.area origin

/-- Storages that hold the same in the areas of all other origins. -/
structure AlikeBeyond (origin : String) (s t : Storage) : Prop where
  quota : t.quota = s.quota
  area : ∀ o, o ≠ origin → t.area o = s.area o

variable {origin : String} {s t u : Storage}

theorem AlikeBeyond.refl (origin : String) (s : Storage) : AlikeBeyond origin s s := ⟨rfl, fun _ _ => rfl⟩

theorem AlikeBeyond.trans (h : AlikeBeyond origin s t) (h' : AlikeBeyond origin t u) : AlikeBeyond origin s u :=
  ⟨h'.quota.trans h.quota, fun o other => (h'.area o other).trans (h.area o other)⟩

theorem AlikeIn.set (h : s.AlikeIn origin t) (key value : String) :
    (t.set origin key value).1 = (s.set origin key value).1 ∧
      (s.set origin key value).2.AlikeIn origin (t.set origin key value).2 := by
  unfold Storage.set
  dsimp only
  rw [h.area, h.quota]
  split
  all_goals
    refine ⟨rfl, rfl, ?_⟩
    rw [area_areas_set, area_areas_set, if_pos rfl, if_pos rfl]

namespace Scope

variable {scope : Scope}

theorem get?_alike (h : s.AlikeIn scope.origin t) (k : Datum) : scope.get? k t = scope.get? k s := by
  unfold get?
  cases scope.key k with
  | error e => rfl
  | ok name => simp only [Storage.get?, h.area]

theorem set_alike (h : s.AlikeIn scope.origin t) (k value : Datum) :
    (scope.set k value t).1 = (scope.set k value s).1 ∧ (scope.set k value t).2.2 = (scope.set k value s).2.2 ∧
      (scope.set k value s).2.1.AlikeIn scope.origin (scope.set k value t).2.1 := by
  unfold set
  cases scope.key k with
  | error e => exact ⟨rfl, rfl, h⟩
  | ok name =>
    cases value.toJson with
    | error e => exact ⟨rfl, rfl, h⟩
    | ok v =>
      obtain ⟨same, alike⟩ := h.set name v.text
      dsimp only
      generalize t.set scope.origin name v.text = second at *
      generalize s.set scope.origin name v.text = first at *
      obtain ⟨r, s'⟩ := first
      obtain ⟨r', t'⟩ := second
      cases same
      cases r <;> exact ⟨rfl, rfl, alike⟩

end Scope
end Storage

/-! ## Pages -/

namespace Session

variable {σ α : Type} {set : Setting σ} {origin : String} {base : Storage} {s t : Session σ} {a : Author}

def withStorage (storage : Storage) (s : Session σ) : Session σ := { s with storage }

/-- A job that is done for scripts of an origin, if for any. -/
def Job.IsOf (origin : String) : Job → Prop
  | .request a _ => a.scope.origin = origin
  | _ => True

/-- A page of an origin, where the jobs that wait are for scripts of its own. -/
structure IsOf (origin : String) (s : Session σ) : Prop where
  known : s.document.origin = .ok origin
  own : ∀ j ∈ s.queue, j.IsOf origin

/-- Two courses of a page of an origin, the same but for what other origins store. Of that the second changed nothing
since it began. -/
structure Alike (origin : String) (base : Storage) (s t : Session σ) : Prop extends s.IsOf origin where
  page : t = s.withStorage t.storage
  storage : s.storage.AlikeIn origin t.storage
  beyond : base.AlikeBeyond origin t.storage

/-- The same answer from two courses, which go on alike. -/
def AlikeAnswers (origin : String) (base : Storage) (first second : α × Session σ) : Prop :=
  second.1 = first.1 ∧ Alike origin base first.2 second.2

theorem AlikeAnswers.exists_eq {first second : α × Session σ} (h : AlikeAnswers origin base first second) :
    ∃ x s t, first = (x, s) ∧ second = (x, t) ∧ Alike origin base s t :=
  ⟨first.1, first.2, second.2, rfl, Prod.ext h.1 rfl, h.2⟩

namespace Alike

/-- A page is alike to itself. -/
theorem of_isOf (h : s.IsOf origin) : Alike origin s.storage s s := ⟨h, rfl, ⟨rfl, rfl⟩, .refl origin s.storage⟩

theorem rebase (h : Alike origin base s t) : Alike origin t.storage s t := { h with beyond := .refl origin t.storage }

/-- The other course stays one of the page, if another origin stores something. -/
theorem spared (h : Alike origin base s t) {other : String} {storage : Storage} (apart : other ≠ origin)
    (beyond : t.storage.AlikeBeyond other storage) : Alike origin storage s (t.withStorage storage) where
  toIsOf := h.toIsOf
  page := by
    conv_lhs => rw [h.page]
    rfl
  storage := ⟨beyond.quota.trans h.storage.quota, (beyond.area origin apart.symm).trans h.storage.area⟩
  beyond := .refl origin storage

theorem document (h : Alike origin base s t) : t.document = s.document := by
  rw [h.page]
  rfl

theorem memory (h : Alike origin base s t) : t.memory = s.memory := by
  rw [h.page]
  rfl

theorem engine (h : Alike origin base s t) : t.engine = s.engine := by
  rw [h.page]
  rfl

theorem round? (h : Alike origin base s t) (n : Nat) : t.round? n = s.round? n := by
  rw [h.page]
  rfl

/-- What does not look at the storage keeps courses alike, if the page stays where it is, and its queue its own. -/
theorem change (h : Alike origin base s t) (f : Session σ → Session σ)
    (blind : ∀ (u : Session σ) storage, f (u.withStorage storage) = (f u).withStorage storage)
    (url : (f s).document.url = s.document.url) (own : ∀ j ∈ (f s).queue, j.IsOf origin) :
    Alike origin base (f s) (f t) := by
  have second : f t = (f s).withStorage t.storage := by
    rw [← blind, ← h.page]
  have same : f s = (f s).withStorage s.storage := blind s s.storage
  have first : (f s).storage = s.storage := by
    rw [same]
    rfl
  have known : (f s).document.origin = .ok origin := by
    rw [Page.Document.origin, url]
    exact h.known
  rw [second]
  refine ⟨⟨known, own⟩, rfl, ?_, h.beyond⟩
  rw [first]
  exact h.storage

/-- A change that leaves the queue alone. -/
theorem change_quiet (h : Alike origin base s t) (f : Session σ → Session σ)
    (blind : ∀ (u : Session σ) storage, f (u.withStorage storage) = (f u).withStorage storage)
    (url : (f s).document.url = s.document.url) (queue : (f s).queue = s.queue) : Alike origin base (f s) (f t) :=
  h.change f blind url (by rw [queue]; exact h.own)

theorem push (h : Alike origin base s t) {j : Job} (own : j.IsOf origin) : Alike origin base (s.push j) (t.push j) :=
  h.change (·.push j) (fun _ _ => rfl) rfl
    (List.forall_mem_append.mpr ⟨h.own, List.forall_mem_singleton.mpr own⟩)

theorem write (h : Alike origin base s t) (line : LogLine) : Alike origin base (s.write line) (t.write line) :=
  h.change_quiet (·.write line) (fun _ _ => rfl) rfl rfl

/-! ## Scripts -/

variable (set)

/-- A dialogue of a script of the page. Its values are in the area of the origin, and nothing else of the storage comes
into its questions. -/
theorem host (h : Alike origin base s t) (own : a.scope.origin = origin) (d : Dialogue α) :
    AlikeAnswers origin base (d.host set a s) (d.host set a t) := by
  induction d generalizing s t with
  | done x => exact ⟨rfl, h⟩
  | addStyle css k ih =>
    have added := h.change_quiet (fun u => { u with document := u.document.addStyle css a.id }) (fun _ _ => rfl) rfl rfl
    simp only [Dialogue.host, h.document]
    rw [h.document] at added
    exact ih _ added
  | getValue key k ih =>
    have same : a.scope.get? key t.storage = a.scope.get? key s.storage :=
      Storage.Scope.get?_alike (own ▸ h.storage) key
    simp only [Dialogue.host, same]
    exact ih _ h
  | setValue key v k ih =>
    obtain ⟨answer, line, alike⟩ := Storage.Scope.set_alike (own ▸ h.storage) key v
    have within := Storage.Scope.within_set a.scope key v t.storage
    simp only [Dialogue.host, answer, line]
    -- Both courses keep the value, or neither; the other areas are those of the second course before.
    refine ih _ ⟨⟨h.known, h.own⟩, ?_, own ▸ alike, h.beyond.trans ⟨within.quota, own ▸ within.area⟩⟩
    conv_lhs => rw [h.page]
    rfl
  | send details k ih => exact ih _ (h.push own)
  | print text k ih => exact ih _ (h.write _)
  | foreign n args k ih =>
    exact ih _ (h.change_quiet (fun u => { u with noted := u.noted ++ [(n, args)] }) (fun _ _ => rfl) rfl rfl)

theorem act (h : Alike origin base s t) (own : a.scope.origin = origin) (x : Act α) :
    AlikeAnswers origin base (s.act set a x) (t.act set a x) := by
  obtain ⟨⟨r, m⟩, u, v, first, second, alike⟩ := (h.host set own (x s.memory)).exists_eq
  unfold Session.act
  rw [h.memory, first, second]
  exact ⟨rfl, alike.change_quiet (fun w => { w with memory := m }) (fun _ _ => rfl) rfl rfl⟩

/-! ## Requests -/

theorem tell (h : Alike origin base s t) (own : a.scope.origin = origin) (n : Relay.News) (f : Value) :
    Alike origin base (s.tell set a n f) (t.tell set a n f) := by
  obtain ⟨x, u, v, first, second, alike⟩ := (h.act set own (do
    let v ← n.make
    calls.call f [v] [])).exists_eq
  unfold Session.tell
  rw [first, second]
  dsimp only
  split
  · next e =>
    rw [alike.memory]
    split
    · exact alike.write _
    · exact alike
  · exact alike

theorem conclude (h : Alike origin base s t) (own : a.scope.origin = origin) (d : Relay.Details) (n : Relay.News) :
    Alike origin base (s.conclude set a d n) (t.conclude set a d n) := by
  have hearer : t.hearer? d n = s.hearer? d n := by
    rw [h.page]
    rfl
  unfold Session.conclude
  rw [hearer]
  split
  · exact h.tell set own n _
  · exact h

theorem ready (h : Alike origin base s t) (own : a.scope.origin = origin) (d : Relay.Details) :
    AlikeAnswers origin base (s.ready set a d) (t.ready set a d) := by
  obtain ⟨x, u, v, first, second, alike⟩ := (h.act set own (Relay.methodOf d)).exists_eq
  unfold Session.ready
  rw [first, second]
  cases x with
  | error trouble => exact ⟨rfl, alike⟩
  | ok method =>
    obtain ⟨x, u', v', first', second', alike'⟩ := (alike.act set own (Relay.wantedOf d method)).exists_eq
    dsimp only
    rw [first', second']
    rcases x with (e | _) | w <;> exact ⟨rfl, alike'⟩

/-- The network knows nothing of what is stored. -/
theorem exchange (h : Alike origin base s t) (w : Relay.Wanted) :
    AlikeAnswers origin base (s.exchange set w) (t.exchange set w) := by
  refine ⟨?_, h.change_quiet (fun u => (u.exchange set w).2) (fun _ _ => rfl) rfl rfl⟩
  rw [h.page]
  rfl

theorem attempt (h : Alike origin base s t) (own : a.scope.origin = origin) (d : Relay.Details) :
    AlikeAnswers origin base (s.attempt set a d) (t.attempt set a d) := by
  obtain ⟨x, u, v, first, second, alike⟩ := (h.ready set own d).exists_eq
  unfold Session.attempt
  rw [first, second]
  cases x with
  | error n => exact ⟨rfl, alike⟩
  | ok w =>
    obtain ⟨x, u', v', first', second', alike'⟩ := (alike.exchange set w).exists_eq
    dsimp only
    rw [first', second']
    rcases x with f | ⟨request, response⟩ <;> exact ⟨rfl, alike'⟩

theorem perform (h : Alike origin base s t) (own : a.scope.origin = origin) (d : Relay.Details) :
    Alike origin base (s.perform set a d) (t.perform set a d) := by
  obtain ⟨n, u, v, first, second, alike⟩ := (h.attempt set own d).exists_eq
  unfold Session.perform
  rw [first, second]
  exact alike.conclude set own d n

/-! ## Batches -/

theorem runCode (h : Alike origin base s t) (script : Script) :
    AlikeAnswers origin base (s.runCode set origin script) (t.runCode set origin script) := by
  unfold Session.runCode
  split
  · exact ⟨rfl, h⟩
  · next p _ =>
    obtain ⟨x, u, v, first, second, alike⟩ :=
      (h.act (a := authorOf set origin script) set rfl (p.start capabilities)).exists_eq
    rw [first, second]
    cases x with
    | ok _ => exact ⟨rfl, alike⟩
    | error trouble =>
      dsimp only
      rw [alike.memory]
      exact ⟨rfl, alike⟩

theorem settled (h : Alike origin base s t) (script : Script) (error : Option String) :
    Alike origin base (s.settled script error) (t.settled script error) := by
  cases error with
  | none => exact h.change_quiet count (fun _ _ => rfl) rfl rfl
  | some text => exact h.write _

theorem runScript (h : Alike origin base s t) (script : Script) :
    AlikeAnswers origin base (s.runScript set later script) (t.runScript set later script) := by
  have known : t.document.origin = .ok origin := by
    rw [h.document]
    exact h.known
  obtain ⟨answer, u, v, first, second, alike⟩ := (h.runCode set script).exists_eq
  unfold Session.runScript
  simp only [h.known, known, first, second]
  cases answer with
  | error f => exact ⟨rfl, alike⟩
  | ok error =>
    have noted := alike.settled script error
    simp only [reported_later]
    split
    · exact ⟨rfl, noted.push trivial⟩
    · exact ⟨rfl, noted⟩

theorem runBatch (h : Alike origin base s t) (scripts : List Script) :
    AlikeAnswers origin base (s.runBatch set later scripts) (t.runBatch set later scripts) := by
  induction scripts generalizing s t with
  | nil => exact ⟨rfl, h⟩
  | cons script rest ih =>
    obtain ⟨answer, u, v, first, second, alike⟩ := (h.runScript set script).exists_eq
    cases answer with
    | error f =>
      rw [runBatch_cons_of_error first, runBatch_cons_of_error second]
      exact ⟨rfl, alike⟩
    | ok o =>
      obtain ⟨answers, rest⟩ := ih alike
      rw [runBatch_cons_of_ok first, runBatch_cons_of_ok second]
      exact ⟨congrArg (Except.map (o :: ·)) answers, rest⟩

/-! ## Rounds -/

theorem setRound (h : Alike origin base s t) (n : Nat) (f : Round → Round) :
    Alike origin base (s.setRound n f) (t.setRound n f) :=
  h.change_quiet (·.setRound n f) (fun _ _ => rfl) rfl rfl

theorem pushRounds (h : Alike origin base s t) (ms : List Nat) :
    Alike origin base (ms.foldl (fun s m => s.push (.round m)) s) (ms.foldl (fun s m => s.push (.round m)) t) := by
  induction ms generalizing s t with
  | nil => exact h
  | cons m rest ih => exact ih (h.push trivial)

theorem finish (h : Alike origin base s t) (n : Nat) (stand : Stand) :
    Alike origin base (s.finish n stand) (t.finish n stand) := by
  have ended {u v : Session σ} (alike : Alike origin base u v) :
      Alike origin base
        (((u.setStand n stand).waitingFor n).foldl (fun s m => s.push (.round m)) (u.setStand n stand))
        (((v.setStand n stand).waitingFor n).foldl (fun s m => s.push (.round m)) (v.setStand n stand)) := by
    have set := alike.setRound n fun r => { r with stand }
    have waiting : (v.setStand n stand).waitingFor n = (u.setStand n stand).waitingFor n := by
      rw [alike.page]
      rfl
    rw [waiting]
    exact set.pushRounds _
  unfold Session.finish
  rw [h.round?]
  dsimp only
  split
  · have idle := h.change_quiet (fun u => { u with idle := true }) (fun _ _ => rfl) rfl rfl
    exact ended (idle.push trivial)
  · exact ended h

theorem runRound (h : Alike origin base s t) (n : Nat) (p : Phase) :
    Alike origin base (s.runRound set n p) (t.runRound set n p) := by
  have asked : set.bridge.select t.document.url p t.engine = set.bridge.select s.document.url p s.engine := by
    rw [h.document, h.engine]
  -- The bridge is asked the same by both, for pages of one URL with engines in one state.
  unfold Session.runRound
  rw [asked]
  obtain ⟨answer, log, engine⟩ := set.bridge.select s.document.url p s.engine
  have told := h.change_quiet (fun u => { u with engine, log := u.log ++ log }) (fun _ _ => rfl) rfl rfl
  cases answer with
  | error f => exact (told.change_quiet (fun u => u.write (u.noBatch p f)) (fun _ _ => rfl) rfl rfl).finish n _
  | ok scripts =>
    obtain ⟨x, u, v, first, second, alike⟩ := (told.runBatch set scripts).exists_eq
    dsimp only
    rw [first, second]
    cases x with
    | error f => exact alike.finish n _
    | ok os =>
      exact (alike.change_quiet (fun u => { u with outcomes := u.outcomes ++ os }) (fun _ _ => rfl) rfl rfl).finish n _

theorem ask (h : Alike origin base s t) (n : Nat) (p : Phase) : Alike origin base (s.ask set n p) (t.ask set n p) := by
  have asking : Alike origin base (s.asking n p) (t.asking n p) :=
    h.change_quiet (·.asking n p) (fun _ _ => rfl) rfl rfl
  rw [ask_eq, ask_eq, h.document]
  split
  · exact asking.runRound set n p
  · exact asking.push trivial

theorem advance (h : Alike origin base s t) (n : Nat) : Alike origin base (s.advance set n) (t.advance set n) := by
  have rounds : (fun m => t.round? m) = fun m => s.round? m := funext h.round?
  unfold Session.advance
  rw [h.round?, rounds]
  split
  · exact h
  · split
    · exact (h.setRound n _).push (j := .round n) trivial
    · split
      · exact h.ask set n _
      · exact h.ask set n _
      · exact h.finish n _
      · exact h.setRound n _

theorem deliver (h : Alike origin base s t) (o : Outcome) : Alike origin base (s.deliver set o) (t.deliver set o) := by
  unfold Session.deliver
  rw [h.engine]
  split
  · exact h
  · split
    · next next _ => exact h.change_quiet (fun u => { u with engine := next }) (fun _ _ => rfl) rfl rfl
    · next next _ => exact (h.change_quiet (fun u => { u with engine := next }) (fun _ _ => rfl) rfl rfl).write _

/-! ## All that may happen -/

theorem work (h : Alike origin base s t) {j : Job} (own : j.IsOf origin) :
    Alike origin base (s.work set j) (t.work set j) := by
  cases j with
  | round n => exact h.advance set n
  | answer n laps =>
    cases laps with
    | zero =>
      simp only [Session.work, h.round?]
      split
      · exact h.runRound set n _
      · exact h
    | succ laps => exact h.push trivial
  | report o => exact h.deliver set o
  | request a d => exact h.perform set own d
  | wake => exact h

theorem turn (h : Alike origin base s t) (i : Nat) : Alike origin base (s.turn set i) (t.turn set i) := by
  have queue : t.queue = s.queue := by
    rw [h.page]
    rfl
  -- Both have the same jobs, and a job that waits is for scripts of the page's own origin.
  cases job : s.queue[i]? with
  | none =>
    rw [turn_of_none job, turn_of_none (by rw [queue, job])]
    exact h
  | some j =>
    rw [turn_eq job, turn_eq (by rw [queue, job])]
    have left : Alike origin base (s.without i) (t.without i) :=
      h.change (·.without i) (fun _ _ => rfl) rfl fun j mem => h.own j (List.mem_of_mem_eraseIdx mem)
    exact left.work set (h.own j (List.mem_of_getElem? job))

theorem due (h : Alike origin base s t) (p : Phase) : Alike origin base (s.due p) (t.due p) :=
  h.change (·.due p) (fun _ _ => rfl) rfl (List.forall_mem_append.mpr ⟨h.own, List.forall_mem_singleton.mpr trivial⟩)

theorem dueOn (h : Alike origin base s t) (now : Page.ReadyState → Bool) (event : String) (p : Phase) :
    Alike origin base (s.dueOn (now s.document.state) event p) (t.dueOn (now t.document.state) event p) := by
  have same : now t.document.state = now s.document.state := by rw [h.document]
  unfold Session.dueOn
  rw [same]
  split
  · exact h.due p
  · exact h.change_quiet (fun u => { u with document := u.document.listen event p }) (fun _ _ => rfl) rfl rfl

theorem attach (h : Alike origin base s t) : Alike origin base s.attach t.attach := by
  have attached : t.attached = s.attached := by
    rw [h.page]
    rfl
  have started := (h.change_quiet (fun u => { u with attached := true }) (fun _ _ => rfl) rfl rfl).due .start
  unfold Session.attach
  rw [attached]
  split
  · exact h
  · exact (started.dueOn (· ≠ .loading) _ _).dueOn (· = .complete) _ _

theorem dues (h : Alike origin base s t) (phases : List Phase) :
    Alike origin base (phases.foldl (fun s p => s.due p) s) (phases.foldl (fun s p => s.due p) t) := by
  induction phases generalizing s t with
  | nil => exact h
  | cons p rest ih => exact ih (h.due p)

theorem through (h : Alike origin base s t) (milestones : List Page.Milestone) :
    Alike origin base (s.through milestones) (t.through milestones) := by
  induction milestones generalizing s t with
  | nil => exact h
  | cons m rest ih =>
    have heard : t.document.heard m.event = s.document.heard m.event := by
      rw [h.document]
    have reached := h.change_quiet (·.reached m) (fun _ _ => rfl) rfl rfl
    rw [through_cons m rest s, through_cons m rest t, through_of_heard (s := s) rfl, through_of_heard heard]
    exact ih (reached.dues _)

theorem move (h : Alike origin base s t) (m : Move σ) : Alike origin base (s.move set m) (t.move set m) := by
  cases m with
  | attach => exact h.attach
  | parsed =>
    simp only [Session.move, finishParsing, h.document]
    exact h.through _
  | loaded =>
    simp only [Session.move, finishLoading, h.document]
    exact h.through _
  | turn bridge i => exact h.turn { set with bridge } i

end Alike

end Session
end Userscript
