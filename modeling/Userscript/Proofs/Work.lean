import Userscript.Fault

/-!
# Userscript.Proofs.Work

Work that may be refused and whose effects stay: `ExceptT Fault (StateM σ)`, the shape of every
operation on a matcher, a store and an engine.

`runOn work s` is the answer of the work together with the state that it leaves. Each way to put
work together has one equation, so that later proofs go through an operation step by step without
opening the monad.
-/

namespace Userscript

variable {σ α β : Type}

/-! ## Results -/

/-- What is made of a result is what was made of some first one. -/
theorem map_eq_ok {ε : Type} {f : α → β} {x : Except ε α} {b : β} (h : x.map f = .ok b) :
    ∃ a, x = .ok a ∧ f a = b := by
  cases x with
  | error e => cases h
  | ok a =>
    cases h
    exact ⟨a, rfl, rfl⟩

theorem map_eq_error {ε : Type} {f : α → β} {x : Except ε α} {e : ε} (h : x.map f = .error e) : x = .error e := by
  cases x with
  | error e =>
    cases h
    rfl
  | ok a => cases h

theorem bind_eq_ok {ε : Type} {x : Except ε α} {f : α → Except ε β} {b : β} (h : (x >>= f) = .ok b) :
    ∃ a, x = .ok a ∧ f a = .ok b := by
  cases x with
  | error e => cases h
  | ok a => exact ⟨a, rfl, h⟩

/-! ## Work -/

/-- What work on a state answers, and the state that it leaves. -/
def runOn (work : ExceptT Fault (StateM σ) α) (s : σ) : Except Fault α × σ := work.run.run s

@[simp] theorem runOn_pure (a : α) (s : σ) :
    runOn (pure a : ExceptT Fault (StateM σ) α) s = (.ok a, s) := rfl

@[simp] theorem runOn_throw (f : Fault) (s : σ) :
    runOn (throw f : ExceptT Fault (StateM σ) α) s = (.error f, s) := rfl

@[simp] theorem runOn_get (s : σ) :
    runOn (get : ExceptT Fault (StateM σ) σ) s = (.ok s, s) := rfl

@[simp] theorem runOn_set (t s : σ) :
    runOn (set t : ExceptT Fault (StateM σ) PUnit) s = (.ok ⟨⟩, t) := rfl

@[simp] theorem runOn_modify (f : σ → σ) (s : σ) :
    runOn (modify f : ExceptT Fault (StateM σ) PUnit) s = (.ok ⟨⟩, f s) := rfl

@[simp] theorem runOn_lift (x : Except Fault α) (s : σ) :
    runOn (liftM x : ExceptT Fault (StateM σ) α) s = (x, s) := rfl

theorem runOn_bind (x : ExceptT Fault (StateM σ) α) (f : α → ExceptT Fault (StateM σ) β) (s : σ) :
    runOn (x >>= f) s =
      match runOn x s with
      | (.ok a, t) => runOn (f a) t
      | (.error e, t) => (.error e, t) := by
  simp only [runOn, ExceptT.run_bind, StateT.run_bind]
  rcases x.run.run s with ⟨_ | _, t⟩ <;> rfl

theorem runOn_bind_ok {x : ExceptT Fault (StateM σ) α} {f : α → ExceptT Fault (StateM σ) β}
    {s t : σ} {a : α} (h : runOn x s = (.ok a, t)) : runOn (x >>= f) s = runOn (f a) t := by
  rw [runOn_bind, h]

theorem runOn_bind_error {x : ExceptT Fault (StateM σ) α} {f : α → ExceptT Fault (StateM σ) β}
    {s t : σ} {e : Fault} (h : runOn x s = (.error e, t)) : runOn (x >>= f) s = (.error e, t) := by
  rw [runOn_bind, h]

/-- Two answers after one another touch no state. -/
theorem runOn_lift_bind (x : Except Fault α) (f : α → Except Fault β) (s : σ) :
    runOn ((liftM x : ExceptT Fault (StateM σ) α) >>= fun a => liftM (f a)) s = (x >>= f, s) := by
  rw [runOn_bind, runOn_lift]
  cases x <;> rfl

theorem runOn_map (f : α → β) (x : ExceptT Fault (StateM σ) α) (s : σ) :
    runOn (f <$> x) s = ((runOn x s).1.map f, (runOn x s).2) := by
  rw [← bind_pure_comp, runOn_bind]
  rcases runOn x s with ⟨_ | _, t⟩ <;> rfl

theorem runOn_tryCatch (x : ExceptT Fault (StateM σ) α)
    (handle : Fault → ExceptT Fault (StateM σ) α) (s : σ) :
    runOn (tryCatch x handle) s =
      match runOn x s with
      | (.ok a, t) => (.ok a, t)
      | (.error e, t) => runOn (handle e) t := by
  simp only [runOn, ExceptT.run_tryCatch, StateT.run_bind]
  generalize x.run.run s = r
  obtain ⟨_ | _, t⟩ := r <;> rfl

/-! ## Work that answers alike -/

/-- Work that answers the same in all states with a property, and keeps the property. -/
def Answers (P : σ → Prop) (work : ExceptT Fault (StateM σ) α) (answer : Except Fault α) : Prop :=
  ∀ s, P s → ∃ t, P t ∧ runOn work s = (answer, t)

namespace Answers

variable {P : σ → Prop}

theorem pure (a : α) : Answers P (pure a) (.ok a) :=
  fun s h => ⟨s, h, rfl⟩

theorem lift (x : Except Fault α) : Answers P (liftM x) x :=
  fun s h => ⟨s, h, rfl⟩

theorem bind {x : ExceptT Fault (StateM σ) α} {r : Except Fault α} {f : α → ExceptT Fault (StateM σ) β}
    {g : α → Except Fault β} (hx : Answers P x r) (hf : ∀ a, Answers P (f a) (g a)) :
    Answers P (x >>= f) (r >>= g) := by
  intro s h
  obtain ⟨t, ht, hrun⟩ := hx s h
  cases r with
  | error e => exact ⟨t, ht, runOn_bind_error hrun⟩
  | ok a =>
    obtain ⟨u, hu, hrest⟩ := hf a t ht
    exact ⟨u, hu, (runOn_bind_ok hrun).trans hrest⟩

theorem bind_ok {x : ExceptT Fault (StateM σ) α} {a : α} {f : α → ExceptT Fault (StateM σ) β}
    {r : Except Fault β} (hx : Answers P x (.ok a)) (hf : Answers P (f a) r) : Answers P (x >>= f) r := by
  intro s h
  obtain ⟨t, ht, hrun⟩ := hx s h
  obtain ⟨u, hu, hrest⟩ := hf t ht
  exact ⟨u, hu, (runOn_bind_ok hrun).trans hrest⟩

theorem mapM {f : α → ExceptT Fault (StateM σ) β} {g : α → Except Fault β}
    (h : ∀ a, Answers P (f a) (g a)) (l : List α) : Answers P (l.mapM f) (l.mapM g) := by
  induction l with
  | nil => exact .pure []
  | cons a l ih =>
    rw [List.mapM_cons, List.mapM_cons]
    exact (h a).bind fun b => ih.bind fun bs => .pure (b :: bs)

theorem filterM {f : α → ExceptT Fault (StateM σ) Bool} {g : α → Except Fault Bool}
    (h : ∀ a, Answers P (f a) (g a)) (l : List α) : Answers P (l.filterM f) (l.filterM g) := by
  have each (acc : List α) : Answers P (l.filterAuxM f acc) (l.filterAuxM g acc) := by
    induction l generalizing acc with
    | nil => exact .pure acc
    | cons a l ih =>
      simp only [List.filterAuxM]
      exact (h a).bind fun b => ih _
  rw [List.filterM, List.filterM]
  exact (each []).bind fun acc => .pure acc.reverse

end Answers

/-- Members that are asked one after another are kept as a test keeps them, if no answer differs from it. -/
theorem filterM_eq_filter {l kept : List α} {g : α → Except Fault Bool} {test : α → Bool}
    (agrees : ∀ a b, g a = .ok b → b = test a) (h : l.filterM g = .ok kept) : kept = l.filter test := by
  have each (m acc out : List α) (step : m.filterAuxM g acc = .ok out) :
      out = (m.filter test).reverse ++ acc := by
    induction m generalizing acc with
    | nil =>
      cases step
      rfl
    | cons a m ih =>
      rw [List.filterAuxM] at step
      cases answer : g a with
      | error f =>
        rw [answer] at step
        cases step
      | ok b =>
        rw [answer] at step
        rw [ih _ step, List.filter_cons, ← agrees a b answer]
        cases b <;> simp
  rw [List.filterM] at h
  cases out : l.filterAuxM g [] with
  | error f =>
    rw [out] at h
    cases h
  | ok acc =>
    rw [out] at h
    obtain rfl := Except.ok.inj h
    rw [each l [] acc out, List.append_nil, List.reverse_reverse]

/-- Work on each member of a list that only answers. -/
theorem runOn_mapM {f : α → ExceptT Fault (StateM σ) β} {g : α → Except Fault β} (s : σ)
    (h : ∀ a, runOn (f a) s = (g a, s)) (l : List α) : runOn (l.mapM f) s = (l.mapM g, s) := by
  have answers (a : α) : Answers (· = s) (f a) (g a) := by
    rintro t rfl
    exact ⟨t, rfl, h a⟩
  obtain ⟨t, rfl, hrun⟩ := Answers.mapM answers l s rfl
  exact hrun

end Userscript
