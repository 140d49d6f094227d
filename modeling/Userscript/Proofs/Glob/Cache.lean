import Userscript.Glob.Shared
import Userscript.Proofs.Eligibility

/-!
# Userscript.Proofs.Glob.Cache

What a matcher keeps does not show in its answers.

A question is answered by a matcher in use as by a new one under the same limits (`answers_ask`). The shared matcher
has the limits that were in force when it was first asked since it was dropped (`Shared.madeWith`), which every call
keeps (`Shared.Stands.perform`), and so it answers as a new matcher under these (`cache_invisible`).

Histories are lists of calls, the latest first.
-/

namespace Userscript.Glob

open Eligibility (InUse)

/-! ## Questions -/

/-- What a matcher is asked. Patterns and URLs are data of any kind. -/
inductive Question where
  | compile (pattern : Json)
  | hits (url pattern : Json)

/-- What a matcher says: the pieces of a pattern, or why it never matches; or whether a pattern hits. -/
inductive Reply where
  | compiled (c : Compiled)
  | verdict (hits : Bool)

def Question.ask : Question → Matching Reply
  | .compile pattern => .compiled <$> compileM pattern
  | .hits url pattern => .verdict <$> hitsM url pattern

def Question.fresh (limits : Limits) (q : Question) : Except Fault Reply :=
  (runOn q.ask (Matcher.new limits, [])).1

/-! ## Matchers in use -/

/-- The pattern compiled, unless the cache has to be searched for what has no key. -/
def compiledNew (limits : Limits) (pattern : Json) : Except Fault Compiled :=
  if limits.cacheSize.any (· ≤ 0) then .ok (compileNew limits pattern)
  else match Key.ofJson? pattern with
    | none => .error .wrongKind
    | some _ => .ok (compileNew limits pattern)

/-- What a new matcher says of a pattern and a URL. -/
def hitsNew (limits : Limits) (url : Json) : Json → Except Fault Bool
  | .str s => do (← compiledNew limits (.str (Text.trim s))).hits url
  | _ => .error .lacking

/-- A pattern is refused or compiled without regard to what is kept. -/
theorem Matcher.Reached.compile_eq {limits : Limits} {m : Matcher} (used : m.Reached limits) (pattern : Json) :
    match compiledNew limits pattern with
    | .error f => m.compile pattern = .error f
    | .ok c => ∃ m' said, m'.Reached limits ∧ m.compile pattern = .ok (c, m', said) := by
  -- A pattern that is kept was compiled under these limits, so that what is kept is what compiling gives.
  obtain ⟨same, sound⟩ := used.sound
  cases ran : m.compile pattern with
  | ok answer =>
    obtain ⟨c, m', said⟩ := answer
    obtain ⟨rfl, -, -⟩ := sound.compile ran
    have taken : compiledNew limits pattern = .ok (compileNew limits pattern) := by
      rw [compiledNew]
      split
      · rfl
      · next keeps =>
        cases key : Key.ofJson? pattern with
        | none => simp [Matcher.compile, same, keeps, key] at ran
        | some k => rfl
    rw [taken]
    exact ⟨m', said, used.compile ran, by rw [same]⟩
  | error f =>
    have refused : compiledNew limits pattern = .error f := by
      simp only [Matcher.compile, same] at ran
      rw [compiledNew]
      split at ran
      · cases ran
      · next keeps =>
        rw [if_neg keeps]
        cases key : Key.ofJson? pattern with
        | none =>
          rw [key] at ran
          cases ran
          rfl
        | some k =>
          rw [key] at ran
          dsimp only at ran
          split at ran <;> cases ran
    rw [refused]

section InUse

variable {limits : Limits}

theorem answers_compileM (pattern : Json) :
    Answers (InUse limits) (compileM pattern) (compiledNew limits pattern) := by
  rintro ⟨m, log⟩ used
  have compiled := Matcher.Reached.compile_eq used pattern
  cases outcome : compiledNew limits pattern with
  | error f =>
    rw [outcome] at compiled
    refine ⟨(m, log), used, ?_⟩
    simp only [compileM, runOn_bind, runOn_get, compiled, runOn_throw]
  | ok c =>
    rw [outcome] at compiled
    obtain ⟨m', said, used', ran⟩ := compiled
    refine ⟨(m', log ++ said), used', ?_⟩
    simp only [compileM, runOn_bind, runOn_get, ran, runOn_set, runOn_pure]

theorem answers_hitsM_given (url pattern : Json) :
    Answers (InUse limits) (hitsM url pattern) (hitsNew limits url pattern) := by
  cases pattern with
  | str s => exact (answers_compileM _).bind fun c => .lift _
  | _ => exact fun s used => ⟨s, used, rfl⟩

/-- A question has one answer, whatever was asked before. -/
theorem answers_ask (q : Question) : Answers (InUse limits) q.ask (q.fresh limits) := by
  have one : ∃ r, Answers (InUse limits) q.ask r := by
    cases q with
    | compile pattern =>
      exact ⟨_, (answers_compileM pattern).bind fun c => .pure (Reply.compiled c)⟩
    | hits url pattern =>
      exact ⟨_, (answers_hitsM_given url pattern).bind fun b => .pure (Reply.verdict b)⟩
  obtain ⟨r, answers⟩ := one
  obtain ⟨_, -, ran⟩ := answers (Matcher.new limits, []) .new
  rw [Question.fresh, ran]
  exact answers

end InUse

/-! ## Histories of one matcher -/

namespace Matcher

inductive Call where
  | ask (q : Question)
  | clear

def perform : Call → Matcher × Log → Matcher × Log
  | .ask q, s => (runOn q.ask s).2
  | .clear, (m, log) => (m.clear, log)

def after (calls : List Call) (s : Matcher × Log) : Matcher × Log := calls.foldr perform s

theorem inUse_perform {limits : Limits} {s : Matcher × Log} (used : InUse limits s) (c : Call) :
    InUse limits (perform c s) := by
  cases c with
  | ask q =>
    obtain ⟨t, used', ran⟩ := answers_ask q s used
    rw [perform, ran]
    exact used'
  | clear => exact Reached.clear used

theorem inUse_after (limits : Limits) (calls : List Call) (log : Log) :
    InUse limits (after calls (.new limits, log)) := by
  induction calls with
  | nil => exact Reached.new
  | cons c earlier ih => exact inUse_perform ih c

end Matcher

/-! ## Histories of the shared matcher -/

namespace Shared

/-- A call that has to do with the shared matcher. -/
inductive Call where
  | ask (q : Question)
  | configure (c : Option Config)
  | drop

variable (e : Config.Environment)

def perform : Call → Shared × Log → Shared × Log
  | .ask q, s => (runOn (onMatcher e q.ask) s).2
  | .configure c, (s, log) => (s.configure c, log)
  | .drop, (s, log) => (s.drop, log)

def after (calls : List Call) (s : Shared × Log) : Shared × Log := calls.foldr (perform e) s

/-- The configuration that stands for what was set: without one it is that of the environment. -/
def standing : Option Config → Except Fault Config
  | some c => .ok c
  | none => Config.ofEnvironment e

variable (start : Option Config)

/-- The configuration in force after calls: the one that was set last, or else at the start. -/
def inForce : List Call → Except Fault Config
  | [] => standing e start
  | .configure c :: _ => standing e c
  | .ask _ :: earlier | .drop :: earlier => inForce earlier

/-- The configuration that was in force when the matcher was first asked since it was dropped. A question asked while
none can be read does not count. -/
def madeWith : List Call → Option Config
  | [] | .drop :: _ => none
  | .configure _ :: earlier => madeWith earlier
  | .ask _ :: earlier => (madeWith earlier).or (inForce e start earlier).toOption

/-- The configuration whose limits a question is answered under that is asked after calls. -/
def limiting (calls : List Call) : Except Fault Config :=
  match madeWith e start calls with
  | some c => .ok c
  | none => inForce e start calls

/-- What is shared after calls: the configuration in force, and a matcher under the limits of the one it was made
with. -/
structure Stands (calls : List Call) (s : Shared × Log) : Prop where
  config : standing e s.1.config = inForce e start calls
  matcher : match madeWith e start calls with
    | none => s.1.matcher = none
    | some c => ∃ m, s.1.matcher = some m ∧ m.Reached c.limits

variable {e start}

theorem runOn_configM (s : Shared) (log : Log) :
    runOn (configM e) (s, log) =
      match standing e s.config with
      | .ok c => (.ok c, { s with config := some c }, log)
      | .error f => (.error f, s, log) := by
  obtain ⟨config, matcher⟩ := s
  cases config with
  | some c => rfl
  | none =>
    simp only [configM, standing, runOn_bind, runOn_get, runOn_lift]
    cases Config.ofEnvironment e <;> rfl

/-- The shared matcher after calls: one in use under the limits that count, and it is there from now on. -/
theorem Stands.runOn_matcherM {calls : List Call} {s : Shared × Log} (h : Stands e start calls s) :
    match limiting e start calls with
    | .error f => runOn (matcherM e) s = (.error f, s)
    | .ok c => ∃ m config, m.Reached c.limits ∧ standing e config = inForce e start calls ∧
        runOn (matcherM e) s = (.ok m, ⟨config, some m⟩, s.2) := by
  obtain ⟨⟨config, matcher⟩, log⟩ := s
  obtain ⟨same, made⟩ := h
  -- A matcher that is there was made under the limits of an earlier call; else one is made under those in force.
  cases madeOf : madeWith e start calls with
  | some c =>
    rw [madeOf] at made
    obtain ⟨m, rfl, used⟩ := made
    simp only [limiting, madeOf]
    exact ⟨m, config, used, same, rfl⟩
  | none =>
    rw [madeOf] at made
    obtain rfl : matcher = none := made
    simp only [limiting, madeOf]
    have asked := runOn_configM (e := e) ⟨config, none⟩ log
    have same' : standing e config = inForce e start calls := same
    rw [same'] at asked
    cases force : inForce e start calls with
    | error f =>
      rw [force] at asked
      simp only [matcherM, runOn_bind, runOn_get, asked]
    | ok c =>
      rw [force] at asked
      refine ⟨.new c.limits, some c, .new, rfl, ?_⟩
      simp only [matcherM, runOn_bind, runOn_get, asked, runOn_modify, runOn_pure]

theorem runOn_onMatcher {α : Type} (work : Matching α) (s : Shared × Log) :
    runOn (onMatcher e work) s =
      match runOn (matcherM e) s with
      | (.error f, t) => (.error f, t)
      | (.ok m, t) => ((runOn work (m, t.2)).1, ⟨t.1.config, some (runOn work (m, t.2)).2.1⟩,
          (runOn work (m, t.2)).2.2) := by
  rw [onMatcher, runOn_bind]
  rcases runOn (matcherM e) s with ⟨f | m, t⟩
  · rfl
  · rfl

/-- A question after calls is answered as by a new matcher under the limits that count, and then these stand. -/
theorem Stands.ask {calls : List Call} {s : Shared × Log} (h : Stands e start calls s) (q : Question) :
    (runOn (onMatcher e q.ask) s).1 = (limiting e start calls >>= fun c => q.fresh c.limits) ∧
    Stands e start (.ask q :: calls) (runOn (onMatcher e q.ask) s).2 := by
  -- No matcher is made where the configuration is refused, and the refusal leaves what there was.
  have there := h.runOn_matcherM
  have made : madeWith e start (.ask q :: calls) = (limiting e start calls).toOption := by
    rw [madeWith, limiting]
    cases madeWith e start calls <;> rfl
  rw [runOn_onMatcher]
  cases counts : limiting e start calls with
  | error f =>
    rw [counts] at there made
    rw [there]
    refine ⟨rfl, ⟨h.config, ?_⟩⟩
    rw [made]
    have none : madeWith e start calls = none := by
      rw [limiting] at counts
      split at counts
      · cases counts
      · assumption
    have kept := h.matcher
    rw [none] at kept
    exact kept
  | ok c =>
    rw [counts] at there made
    obtain ⟨m, config, used, same, ran⟩ := there
    obtain ⟨t, used', answered⟩ := answers_ask q (m, s.2) used
    rw [ran]
    dsimp only
    rw [answered]
    refine ⟨rfl, ⟨same, ?_⟩⟩
    rw [made]
    exact ⟨t.1, rfl, used'⟩

theorem Stands.perform {calls : List Call} {s : Shared × Log} (h : Stands e start calls s) (c : Call) :
    Stands e start (c :: calls) (Shared.perform e c s) := by
  cases c with
  | ask q => exact (h.ask q).2
  | configure c => exact ⟨rfl, h.matcher⟩
  | drop => exact ⟨h.config, rfl⟩

theorem stands_after (e : Config.Environment) (start : Option Config) (calls : List Call) (log : Log) :
    Stands e start calls (after e calls ({ config := start }, log)) := by
  induction calls with
  | nil => exact ⟨rfl, rfl⟩
  | cons c earlier ih => exact ih.perform c

end Shared

/-! ## Invisibility -/

/-- What is kept does not show. A matcher that was asked and cleared in any way answers each question as a new one
under the same limits. The shared matcher answers, after any questions, configurations and drops, as a new one under
the limits that were in force when it was first asked since it was dropped; where it was not asked since, that is under
those in force now, and if there are none that can be read, the question ends in that fault. -/
theorem cache_invisible :
    (∀ (limits : Limits) (calls : List Matcher.Call) (log : Log) (q : Question),
      (runOn q.ask (Matcher.after calls (.new limits, log))).1 = q.fresh limits) ∧
    ∀ (e : Config.Environment) (start : Option Config) (calls : List Shared.Call) (log : Log) (q : Question),
      (runOn (Shared.onMatcher e q.ask) (Shared.after e calls ({ config := start }, log))).1 =
        (Shared.limiting e start calls >>= fun c => q.fresh c.limits) := by
  constructor
  · intro limits calls log q
    obtain ⟨_, -, ran⟩ := answers_ask q _ (Matcher.inUse_after limits calls log)
    rw [ran]
  · intro e start calls log q
    exact ((Shared.stands_after e start calls log).ask q).1

end Userscript.Glob
