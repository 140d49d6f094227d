import Userscript.Proofs.Selection
import Userscript.Proofs.Session.Accounts
import Userscript.Proofs.Session.Ledger

/-!
# Userscript.Proofs.Session.Local

A page and an engine in the same house, which keeps its catalog in memory.

* `select_local`: asking for a batch gives what the catalog holds for the page, and leaves the store;
* `exists_batch`: there is an answer for each phase, if scripts say in words when they want to run;
* `account_deliver`: a report that is delivered is recorded in the store, and changes nothing else.
-/

namespace Userscript

/-! ## Work that keeps a property -/

/-- Work that keeps a property, whatever it answers. -/
def Keeps {σ α : Type} (P : σ → Prop) (work : ExceptT Fault (StateM σ) α) : Prop := ∀ s, P s → P (runOn work s).2

namespace Keeps

variable {σ α β : Type} {P : σ → Prop}

theorem pure (a : α) : Keeps P (pure a) := fun _ h => h

theorem lift (x : Except Fault α) : Keeps P (liftM x) := fun _ h => h

theorem bind {x : ExceptT Fault (StateM σ) α} {f : α → ExceptT Fault (StateM σ) β} (hx : Keeps P x)
    (hf : ∀ a, Keeps P (f a)) : Keeps P (x >>= f) := by
  intro s h
  have first := hx s h
  cases ran : runOn x s with
  | mk r t =>
    rw [ran] at first
    cases r with
    | error e =>
      rw [runOn_bind_error ran]
      exact first
    | ok a =>
      rw [runOn_bind_ok ran]
      exact hf a t first

theorem filterM {f : α → ExceptT Fault (StateM σ) Bool} (h : ∀ a, Keeps P (f a)) (l : List α) :
    Keeps P (l.filterM f) := by
  have each (acc : List α) : Keeps P (l.filterAuxM f acc) := by
    induction l generalizing acc with
    | nil => exact .pure acc
    | cons a l ih =>
      simp only [List.filterAuxM]
      exact (h a).bind fun b => ih _
  rw [List.filterM]
  exact (each []).bind fun acc => .pure acc.reverse

end Keeps

namespace Engine

variable {limits : Glob.Limits} {scripts : List Script} {settings : Settings} {url : String}

def InMemory (store : Catalog.Store) : Prop := ∃ m, store.backend = .memory m

theorem touched_inMemory {store : Catalog.Store} (memory : InMemory store) : store.touched = store := by
  obtain ⟨m, memory⟩ := memory
  rw [Catalog.Store.touched, memory]

theorem keeps_runs {store : Catalog.Store} (url phase : Json) (s : Script) :
    Keeps (fun e : Engine => e.store = store) (runs url phase s) := by
  unfold runs
  split
  · exact .pure false
  · refine Keeps.bind (fun e h => h) fun decision => ?_
    split
    · exact .pure false
    · exact .lift _

/-- Once the catalog and the settings are read, the store is left alone. -/
theorem keeps_batch {store : Catalog.Store} (url phase : Json) (scripts : List Script) (settings : Settings) :
    Keeps (fun e : Engine => e.store = store)
      (do
        if settings.safeMode then return []
        if settings.isPaused (← Url.Given.siteHost url) then return []
        scripts.filterM (runs url phase)) := by
  split
  · exact .pure []
  · refine (Keeps.lift _).bind fun host => ?_
    split
    · exact .pure []
    · exact .filterM (keeps_runs url phase) _

/-- Selecting reads a store in memory, and leaves it as it is. -/
theorem keeps_select {store : Catalog.Store} (memory : InMemory store) (url phase : Json) :
    Keeps (fun e : Engine => e.store = store) (select url phase) := by
  have read {α : Type} {work : Catalog.Store.Work α}
      (reads : (runOn work store).2 = store ∨ (runOn work store).2 = store.touched) :
      Keeps (fun e : Engine => e.store = store) (tryCatch (onStore work) fun f => throw (readFault f)) := by
    rintro e rfl
    rw [runOn_read]
    rcases reads with same | same
    · exact same
    · exact same.trans (touched_inMemory memory)
  unfold select
  refine (Keeps.lift _).bind fun web => ?_
  split
  · exact .pure []
  · refine Keeps.bind ?_ fun (scripts, settings) => keeps_batch url phase scripts settings
    exact (read store.after_catalog).bind fun _ => (read store.after_settings).bind fun _ => .pure _

/-- The batch of a page for a phase, given what the catalog and the settings are. -/
def batchAt (limits : Glob.Limits) (scripts : List Script) (settings : Settings) (url : String) (p : Phase) :
    Except Fault (List Script) :=
  if Url.isWeb url then batchOf limits url (.str p.name) scripts settings else .ok []

theorem answers_batchAt (url : String) (p : Phase) :
    Answers (Uses limits (.ok (scripts, settings))) (select (.str url) (.str p.name))
      (batchAt limits scripts settings url p) := answers_select url (.str p.name)

/-- The scripts of a batch are of the catalog. -/
theorem mem_batchAt {p : Phase} {batch : List Script} (selected : batchAt limits scripts settings url p = .ok batch)
    {c : Script} (mem : c ∈ batch) : c ∈ scripts := by
  rw [batch_eq_filter selected] at mem
  exact List.mem_of_mem_filter mem

/-- A script says in words when it wants to run, or does not say it. -/
def IsTyped (c : Script) : Prop := c.runAt = .null ∨ ∃ wish, c.runAt = .str wish

theorem exists_applies {c : Script} (typed : IsTyped c) (p : Phase) :
    ∃ b, Phase.applies c.runAt (.str p.name) = .ok b := by
  have known : Phase.ofJson (.str p.name) = .ok p := by cases p <;> rfl
  rw [Phase.applies, known]
  rcases typed with absent | ⟨wish, said⟩
  · rw [absent]
    exact ⟨_, rfl⟩
  · rw [said, Phase.wishOf, Json.orElse]
    by_cases worded : (Json.str wish).truthy = true
    · rw [if_pos worded]
      exact ⟨_, rfl⟩
    · rw [if_neg worded]
      exact ⟨_, rfl⟩

theorem exists_batch (typed : ∀ c ∈ scripts, IsTyped c) (p : Phase) :
    ∃ batch, batchAt limits scripts settings url p = .ok batch := by
  have runs (c : Script) (mem : c ∈ scripts) : ∃ b, runsOn limits url (.str p.name) c = .ok b := by
    unfold runsOn
    split
    · exact ⟨false, rfl⟩
    · split
      · exact ⟨false, rfl⟩
      · exact exists_applies (typed c mem) p
  have all (l kept : List Script) (within : ∀ c ∈ l, c ∈ scripts) :
      ∃ more, l.filterAuxM (runsOn limits url (.str p.name)) kept = .ok more := by
    induction l generalizing kept with
    | nil => exact ⟨kept, rfl⟩
    | cons c rest ih =>
      rw [List.forall_mem_cons] at within
      obtain ⟨b, decided⟩ := runs c within.1
      rw [List.filterAuxM, decided]
      exact ih _ within.2
  obtain ⟨kept, gathered⟩ := all scripts [] fun _ mem => mem
  unfold batchAt batchOf
  split
  · split
    · exact ⟨[], rfl⟩
    · split
      · exact ⟨[], rfl⟩
      · exact ⟨kept.reverse, by rw [List.filterM, gathered]; rfl⟩
  · exact ⟨[], rfl⟩

/-- Asking for a batch over the bridge of the house: the batch is what the catalog holds, and the store is left. -/
theorem select_local {e : Engine} (used : Uses limits (.ok (scripts, settings)) e) (memory : InMemory e.store)
    {p : Phase} {batch : List Script} (selected : batchAt limits scripts settings url p = .ok batch) :
    ∃ log e', Engine.bridge.select url p e = (.ok batch, log, e') ∧
      Uses limits (.ok (scripts, settings)) e' ∧ e'.store = e.store := by
  obtain ⟨e', used', ran⟩ := answers_batchAt url p { e with log := [] } used
  have kept := keeps_select memory (.str url) (.str p.name) { e with log := [] } rfl
  rw [ran] at kept
  rw [selected] at ran
  refine ⟨e'.log, e', ?_, used', kept⟩
  change (let (r, e) := runOn (select (.str url) (.str p.name)) { e with log := [] }; (r, e.log, e)) = _
  rw [ran]

end Engine

namespace Session

/-- A report that is delivered in the house is recorded in its store, and changes nothing else of the books. -/
theorem account_deliver {set : Setting Engine} (house : set.bridge = Engine.bridge) (o : Outcome)
    (s : Session Engine) :
    (s.deliver set o).account = { s.account with engine := { s.engine with store := s.engine.store.recorded o } } := by
  obtain ⟨id, name, error⟩ := o
  cases id with
  | none => rfl
  | some id =>
    have taken : set.bridge.report id error s.engine =
        ((runOn (Catalog.Store.recordRun id error.isNone (Outcome.told ⟨id, name, error⟩)) s.engine.store).1,
          { s.engine with store := s.engine.store.recorded ⟨id, name, error⟩ }) := by
      rw [house]
      rfl
    unfold deliver
    dsimp only
    rw [taken]
    -- Whether the store takes the report or not, the page goes on with what the store is then.
    split
    · next told =>
      rw [← (Prod.mk.inj told).2]
      rfl
    · next told =>
      rw [← (Prod.mk.inj told).2]
      rfl

end Session
end Userscript
