import Userscript.Proofs.Machine.Described
import Userscript.Proofs.Session.Confined

/-!
# Userscript.Proofs.Session.Batch

What a batch leaves, whatever its scripts do and whatever becomes of their reports.

* `runScript_ok` and `runScript_error` are what the run of one script may come to;
* `Session.made` are the outcomes of a batch, up to its end or to where it breaks off, and `runBatch_foldl`: what each
  run changes in one way, a batch changes in that way for each of them in order;
* `BreaksOff` is how a batch may break off, and `runBatch_error_iff`: otherwise it ends;
* `reporting` is a reporter with a state of its own, which may refuse every report;
* `batch_ends_iff`: what a batch leaves when it ends, and when it breaks off.
-/

namespace Userscript

/-- A reporter that leaves the page alone, and its count of runs. -/
structure Reporter.IsApart {σ : Type} (report : Reporter σ) : Prop where
  document : ∀ o s, (report o s).2.document = s.document
  runCount : ∀ o s, (report o s).2.runCount = s.runCount

namespace Session

open Machine

variable {σ β : Type} {set : Setting σ} {report : Reporter σ} {script : Script} {s t : Session σ} {o : Outcome}
  {origin : String}

/-! ## One script -/

/-- What a report does to a page, apart from a line in the log. -/
theorem reported_cases (report : Reporter σ) (o : Outcome) (s : Session σ) :
    s.reported report o = (report o s).2 ∨ ∃ line, s.reported report o = (report o s).2.write line := by
  unfold reported
  split
  · next h =>
    rw [h]
    exact .inl rfl
  · next h =>
    rw [h]
    exact .inr ⟨_, rfl⟩

theorem document_reported (apart : report.IsApart) (o : Outcome) (s : Session σ) :
    (s.reported report o).document = s.document := by
  rcases reported_cases report o s with same | ⟨line, same⟩
  · rw [same, apart.document]
  · rw [same]
    exact apart.document o s

theorem runCount_reported (apart : report.IsApart) (o : Outcome) (s : Session σ) :
    (s.reported report o).runCount = s.runCount := by
  rcases reported_cases report o s with same | ⟨line, same⟩
  · rw [same, apart.runCount]
  · rw [same]
    exact apart.runCount o s

theorem url_settled (script : Script) (error : Option String) (s : Session σ) :
    (s.settled script error).document.url = s.document.url := by
  cases error <;> rfl

theorem confined_of_runCode {answer : Except Fault (Option String)} (code : s.runCode set origin script = (answer, t)) :
    Confined (authorOf set origin script) s t := by
  have confined := confined_runCode set origin script s
  rw [code] at confined
  exact confined

theorem url_runCode (set : Setting σ) (origin : String) (script : Script) (s : Session σ) :
    (s.runCode set origin script).2.document.url = s.document.url := by
  obtain ⟨sheets, grown⟩ := (confined_runCode set origin script s).document
  rw [grown, Page.Document.addStyles_eq]

theorem runCount_of_runCode {answer : Except Fault (Option String)}
    (code : s.runCode set origin script = (answer, t)) : t.runCount = s.runCount := by
  rw [(confined_of_runCode code).rest]

theorem engine_of_runCode {answer : Except Fault (Option String)}
    (code : s.runCode set origin script = (answer, t)) : t.engine = s.engine := by
  rw [(confined_of_runCode code).rest]

theorem indicator_of_runCode {answer : Except Fault (Option String)}
    (code : s.runCode set origin script = (answer, t)) : t.document.indicator = s.document.indicator := by
  obtain ⟨sheets, grown⟩ := (confined_of_runCode code).document
  rw [grown, Page.Document.addStyles_eq]

/-- The code of a script ends in an error that has no words. -/
def Wordless (set : Setting σ) (origin : String) (script : Script) (s : Session σ) : Prop :=
  ∃ p e t, Program.ofSource set.longest script.code = .ok p ∧
    s.act set (authorOf set origin script) (p.start capabilities) = (.error (.raised e), t) ∧
    t.memory.isWritable e = false

theorem runCode_error_iff {f : Fault} :
    (s.runCode set origin script).1 = .error f ↔ s.Wordless set origin script ∧ f = wordless := by
  unfold runCode Wordless
  split
  · next refused =>
    refine ⟨nofun, ?_⟩
    rintro ⟨⟨_, _, _, source, -⟩, -⟩
    cases refused.symm.trans source
  · next p source =>
    split
    · next ended =>
      refine ⟨nofun, ?_⟩
      rintro ⟨⟨q, e, t, source', acted, -⟩, -⟩
      cases source.symm.trans source'
      cases ended.symm.trans acted
    · next trouble t ended =>
      -- That the run of the code came to no answer is the fault of telling its trouble.
      have untold : ((trouble.told t.memory).map some : Except Fault (Option String)) = .error f ↔
          trouble.told t.memory = .error f := by
        refine ⟨map_eq_error, fun same => ?_⟩
        rw [same]
        rfl
      rw [untold, Trouble.told_error_iff]
      refine and_congr_left fun _ => ⟨?_, ?_⟩
      · rintro ⟨e, rfl, unwritten⟩
        exact ⟨p, e, t, source, ended, unwritten⟩
      · rintro ⟨q, e, u, source', acted, unwritten⟩
        cases source.symm.trans source'
        cases ended.symm.trans acted
        exact ⟨e, rfl, unwritten⟩

/-- A run that left an outcome: what its code came to, counted and reported. -/
theorem runScript_ok (ran : s.runScript set report script = (.ok o, t)) :
    ∃ origin error u, s.document.origin = .ok origin ∧ s.runCode set origin script = (.ok error, u) ∧
      o = ⟨script.id, script.name, error⟩ ∧ t = (u.settled script error).reported report o := by
  unfold runScript at ran
  split at ran
  · cases ran
  · next origin known =>
    split at ran
    · cases ran
    · next error u code =>
      cases ran
      exact ⟨origin, error, u, known, code, rfl, rfl⟩

/-- A run that left none. -/
theorem runScript_error {f : Fault} (ran : s.runScript set report script = (.error f, t)) :
    s.document.origin = .error f ∧ t = s ∨
      ∃ origin, s.document.origin = .ok origin ∧ s.runCode set origin script = (.error f, t) := by
  unfold runScript at ran
  split at ran
  · next unknown =>
    cases ran
    exact .inl ⟨unknown, rfl⟩
  · next origin known =>
    split at ran
    · next code =>
      cases ran
      exact .inr ⟨origin, known, code⟩
    · cases ran

theorem runScript_of_wordless (report : Reporter σ) (known : s.document.origin = .ok origin) (untold : s.Wordless set origin script) :
    ∃ t, s.runScript set report script = (.error wordless, t) := by
  have code : (s.runCode set origin script).1 = .error wordless := runCode_error_iff.mpr ⟨untold, rfl⟩
  rw [runScript, known]
  dsimp only
  split
  · next t gone =>
    rw [gone] at code
    obtain rfl := Except.error.inj code
    exact ⟨t, rfl⟩
  · next gone =>
    rw [gone] at code
    cases code

/-- What the code of a script, the note of how it ended, and its report keep, its run keeps. -/
theorem runScript_keeps {P : Session σ → Prop} (code : ∀ origin s, P s → P (s.runCode set origin script).2)
    (settled : ∀ error s, P s → P (s.settled script error)) (reported : ∀ o s, P s → P (s.reported report o))
    (h : P s) : P (s.runScript set report script).2 := by
  unfold runScript
  split
  · exact h
  · next origin _ =>
    have coded := code origin s h
    split
    · next ran =>
      rw [ran] at coded
      exact coded
    · next ran =>
      rw [ran] at coded
      exact reported _ _ (settled _ _ coded)

theorem origin_runScript (apart : report.IsApart) (script : Script) (s : Session σ) :
    (s.runScript set report script).2.document.origin = s.document.origin := by
  have of_url {t : Session σ} (same : t.document.url = s.document.url) : t.document.origin = s.document.origin :=
    congrArg Url.origin same
  refine of_url (runScript_keeps (P := fun t => t.document.url = s.document.url) ?_ ?_ ?_ rfl)
  · exact fun origin t same => (url_runCode set origin script t).trans same
  · exact fun error t same => (url_settled script error t).trans same
  · exact fun o t same => (congrArg Page.Document.url (document_reported apart o t)).trans same

/-- The count of runs goes up with a run that came to its end, and with no other. -/
theorem runCount_of_ok (apart : report.IsApart) (ran : s.runScript set report script = (.ok o, t)) :
    t.runCount = if o.ok then s.runCount + 1 else s.runCount := by
  obtain ⟨origin, error, u, -, code, rfl, rfl⟩ := runScript_ok ran
  rw [runCount_reported apart, ← runCount_of_runCode code]
  cases error <;> rfl

theorem runCount_of_error {f : Fault} (ran : s.runScript set report script = (.error f, t)) :
    t.runCount = s.runCount := by
  rcases runScript_error ran with ⟨-, rfl⟩ | ⟨origin, -, code⟩
  · rfl
  · exact runCount_of_runCode code

/-- The badge is shown the count of runs whenever that goes up. -/
theorem indicator_of_ok (apart : report.IsApart) (ran : s.runScript set report script = (.ok o, t)) :
    t.document.indicator =
      if o.ok then s.document.indicator.update (s.runCount + 1 : Nat) else s.document.indicator := by
  obtain ⟨origin, error, u, -, code, rfl, rfl⟩ := runScript_ok ran
  rw [document_reported apart, ← runCount_of_runCode code, ← indicator_of_runCode code]
  cases error <;> rfl

theorem indicator_of_error {f : Fault} (ran : s.runScript set report script = (.error f, t)) :
    t.document.indicator = s.document.indicator := by
  rcases runScript_error ran with ⟨-, rfl⟩ | ⟨origin, -, code⟩
  · rfl
  · exact indicator_of_runCode code

/-! ## Batches -/

/-- The outcomes of a batch, up to its end or to the script at which it breaks off. -/
def made (set : Setting σ) (report : Reporter σ) : List Script → Session σ → List Outcome
  | [], _ => []
  | script :: rest, s =>
    match s.runScript set report script with
    | (.error _, _) => []
    | (.ok o, s) => o :: made set report rest s

variable {scripts before : List Script} {os : List Outcome}

theorem runBatch_cons_of_ok (ran : s.runScript set report script = (.ok o, t)) (rest : List Script) :
    s.runBatch set report (script :: rest) =
      ((t.runBatch set report rest).1.map (o :: ·), (t.runBatch set report rest).2) := by
  rw [runBatch, ran]
  dsimp only
  split
  · next ended =>
    rw [ended]
    rfl
  · next ended =>
    rw [ended]
    rfl

theorem runBatch_cons_of_error {f : Fault} (ran : s.runScript set report script = (.error f, t))
    (rest : List Script) : s.runBatch set report (script :: rest) = (.error f, t) := by
  rw [runBatch, ran]

theorem made_cons_of_ok (ran : s.runScript set report script = (.ok o, t)) (rest : List Script) :
    s.made set report (script :: rest) = o :: t.made set report rest := by
  rw [made, ran]

theorem made_cons_of_error {f : Fault} (ran : s.runScript set report script = (.error f, t)) (rest : List Script) :
    s.made set report (script :: rest) = [] := by
  rw [made, ran]

/-- A batch behind one that ended is run on the page as that left it. -/
theorem runBatch_append (ended : s.runBatch set report before = (.ok os, t)) (rest : List Script) :
    s.runBatch set report (before ++ rest) =
        ((t.runBatch set report rest).1.map (os ++ ·), (t.runBatch set report rest).2) ∧
      s.made set report (before ++ rest) = os ++ t.made set report rest := by
  induction before generalizing s os with
  | nil =>
    cases ended
    refine ⟨Prod.ext ?_ rfl, rfl⟩
    change (t.runBatch set report rest).1 = _
    cases (t.runBatch set report rest).1 <;> rfl
  | cons script before ih =>
    cases ran : s.runScript set report script with
    | mk answer u =>
      cases answer with
      | error f =>
        rw [runBatch_cons_of_error ran] at ended
        cases ended
      | ok o =>
        rw [runBatch_cons_of_ok ran] at ended
        obtain ⟨first, rfl⟩ := Prod.mk.inj ended
        obtain ⟨more, endedRest, rfl⟩ := map_eq_ok first
        obtain ⟨both, all⟩ := ih (Prod.ext endedRest rfl)
        rw [List.cons_append, runBatch_cons_of_ok ran, both, made_cons_of_ok ran, all]
        refine ⟨Prod.ext ?_ rfl, rfl⟩
        cases ((u.runBatch set report before).2.runBatch set report rest).1 <;> rfl

/-- A batch that ended left an outcome for each of its scripts, each run on the page as those before it left it. -/
theorem runBatch_ok (ended : (s.runBatch set report scripts).1 = .ok os) :
    s.made set report scripts = os ∧
      os.map (fun o => (o.id, o.name)) = scripts.map (fun c => (c.id, c.name)) ∧
      ∀ before script after, scripts = before ++ script :: after → ∃ o t,
        (s.runBatch set report before).2.runScript set report script = (.ok o, t) ∧ os[before.length]? = some o := by
  -- On the scripts: the first one leaves an outcome, and the others run on the page that it leaves.
  induction scripts generalizing s os with
  | nil =>
    cases ended
    exact ⟨rfl, rfl, fun before script after cut => absurd cut.symm (by simp)⟩
  | cons first rest ih =>
    cases ran : s.runScript set report first with
    | mk answer t =>
      cases answer with
      | error f =>
        rw [runBatch_cons_of_error ran] at ended
        cases ended
      | ok o =>
        obtain ⟨origin, error, u, -, -, same, -⟩ := runScript_ok ran
        rw [runBatch_cons_of_ok ran] at ended
        obtain ⟨more, endedRest, rfl⟩ := map_eq_ok ended
        obtain ⟨all, named, each⟩ := ih endedRest
        refine ⟨?_, ?_, ?_⟩
        · rw [made_cons_of_ok ran, all]
        · rw [List.map_cons, List.map_cons, named, same]
        · intro before script after cut
          cases before with
          | nil =>
            obtain ⟨rfl, -⟩ := List.cons.inj cut
            exact ⟨o, t, ran, rfl⟩
          | cons _ before =>
            obtain ⟨rfl, cutRest⟩ := List.cons.inj cut
            rw [runBatch_cons_of_ok ran]
            exact each before script after cutRest

/-- A batch that did not end: its first scripts did, and then one left no outcome. -/
theorem runBatch_error {f : Fault} (broken : (s.runBatch set report scripts).1 = .error f) :
    ∃ before script after os t, scripts = before ++ script :: after ∧ s.runBatch set report before = (.ok os, t) ∧
      t.runScript set report script = (.error f, (s.runBatch set report scripts).2) ∧
      s.made set report scripts = os := by
  induction scripts generalizing s with
  | nil => cases broken
  | cons first rest ih =>
    cases ran : s.runScript set report first with
    | mk answer t =>
      cases answer with
      | error g =>
        rw [runBatch_cons_of_error ran] at broken ⊢
        cases broken
        exact ⟨[], first, rest, [], s, rfl, rfl, ran, made_cons_of_error ran rest⟩
      | ok o =>
        rw [runBatch_cons_of_ok ran] at broken ⊢
        obtain ⟨before, script, after, os, u, rfl, ended, last, all⟩ := ih (map_eq_error broken)
        refine ⟨first :: before, script, after, o :: os, u, rfl, ?_, last, ?_⟩
        · rw [runBatch_cons_of_ok ran, ended]
          rfl
        · rw [made_cons_of_ok ran, all]

/-- What the run of a script changes in one way, and only if it left an outcome, a batch changes in that way for each
outcome in order. -/
theorem runBatch_foldl (view : Session σ → β) (put : β → Outcome → β)
    (told : ∀ {script s o t}, s.runScript set report script = (.ok o, t) → view t = put (view s) o)
    (broken : ∀ {script s f t}, s.runScript set report script = (.error f, t) → view t = view s)
    (scripts : List Script) (s : Session σ) :
    view (s.runBatch set report scripts).2 = (s.made set report scripts).foldl put (view s) := by
  induction scripts generalizing s with
  | nil => rfl
  | cons first rest ih =>
    cases ran : s.runScript set report first with
    | mk answer t =>
      cases answer with
      | error f =>
        rw [runBatch_cons_of_error ran, made_cons_of_error ran]
        exact broken ran
      | ok o =>
        rw [runBatch_cons_of_ok ran, made_cons_of_ok ran, List.foldl_cons, ← told ran]
        exact ih t

/-- What the run of each script keeps, a batch keeps, whether it ends or not. -/
theorem runBatch_keeps {P : Session σ → Prop} (each : ∀ script s, P s → P (s.runScript set report script).2)
    (scripts : List Script) (h : P s) : P (s.runBatch set report scripts).2 := by
  induction scripts generalizing s with
  | nil => exact h
  | cons first rest ih =>
    have next := each first s h
    cases ran : s.runScript set report first with
    | mk answer t =>
      rw [ran] at next
      cases answer with
      | error f =>
        rw [runBatch_cons_of_error ran]
        exact next
      | ok o =>
        rw [runBatch_cons_of_ok ran]
        exact ih next

/-- An outcome of a batch is what the run of one of its scripts came to. -/
theorem exists_of_mem_made (mem : o ∈ s.made set report scripts) :
    ∃ script ∈ scripts, ∃ t u : Session σ, t.runScript set report script = (.ok o, u) := by
  induction scripts generalizing s with
  | nil => cases mem
  | cons first rest ih =>
    cases ran : s.runScript set report first with
    | mk answer t =>
      cases answer with
      | error f =>
        rw [made_cons_of_error ran] at mem
        cases mem
      | ok o' =>
        rw [made_cons_of_ok ran, List.mem_cons] at mem
        rcases mem with rfl | mem
        · exact ⟨first, List.mem_cons_self, s, t, ran⟩
        · obtain ⟨script, within, u, v, ran'⟩ := ih mem
          exact ⟨script, List.mem_cons_of_mem first within, u, v, ran'⟩

theorem foldl_count (os : List Outcome) (n : Nat) :
    os.foldl (fun n o => if o.ok then n + 1 else n) n = n + os.countP Outcome.ok := by
  induction os generalizing n with
  | nil => rfl
  | cons o rest ih =>
    rw [List.foldl_cons, ih, List.countP_cons]
    by_cases ended : o.ok
    · rw [if_pos ended, if_pos ended]
      omega
    · rw [if_neg ended, if_neg ended, Nat.add_zero]

/-- The count of runs goes up by the outcomes of runs that came to their end. -/
theorem runCount_runBatch (apart : report.IsApart) (scripts : List Script) (s : Session σ) :
    (s.runBatch set report scripts).2.runCount = s.runCount + (s.made set report scripts).countP Outcome.ok :=
  (runBatch_foldl runCount (fun n o => if o.ok then n + 1 else n) (runCount_of_ok apart) runCount_of_error
    scripts s).trans (foldl_count _ _)

theorem origin_runBatch (set : Setting σ) (apart : report.IsApart) (scripts : List Script) (s : Session σ) :
    (s.runBatch set report scripts).2.document.origin = s.document.origin :=
  runBatch_keeps (P := fun t => t.document.origin = s.document.origin)
    (fun script t same => (origin_runScript apart script t).trans same) scripts rfl

/-! ## Batches that break off -/

/-- A batch breaks off with a fault after some of its scripts: before the first if the origin of the page cannot be
told, or else at a script whose error has no words. -/
inductive BreaksOff (set : Setting σ) (report : Reporter σ) (scripts : List Script) (s : Session σ) :
    List Script → Fault → Prop
  | nowhere {f : Fault} : scripts ≠ [] → s.document.origin = .error f → BreaksOff set report scripts s [] f
  | wordless {origin : String} {before after : List Script} {script : Script} {os : List Outcome} :
      s.document.origin = .ok origin → scripts = before ++ script :: after →
      (s.runBatch set report before).1 = .ok os →
      (s.runBatch set report before).2.Wordless set origin script → BreaksOff set report scripts s before wordless

/-- A batch does not end iff it breaks off. -/
theorem runBatch_error_iff (apart : report.IsApart) {f : Fault} :
    (s.runBatch set report scripts).1 = .error f ↔ ∃ before, s.BreaksOff set report scripts before f := by
  constructor
  · intro broken
    obtain ⟨before, script, after, os, t, cut, ended, last, -⟩ := runBatch_error broken
    have origin : t.document.origin = s.document.origin := by
      have kept := origin_runBatch set apart before s
      rw [ended] at kept
      exact kept
    have first : (s.runBatch set report before).1 = .ok os := by rw [ended]
    -- No script changes where the page is, so the script at which it breaks off finds the same origin.
    rcases runScript_error last with ⟨unknown, -⟩ | ⟨origin', known, code⟩
    · exact ⟨[], .nowhere (by simp [cut]) (origin ▸ unknown)⟩
    · obtain ⟨untold, rfl⟩ := runCode_error_iff.mp (congrArg Prod.fst code)
      exact ⟨before, .wordless (origin.symm.trans known) cut first (by rw [ended]; exact untold)⟩
  · rintro ⟨before, broken⟩
    cases broken with
    | nowhere some unknown =>
      cases scripts with
      | nil => exact absurd rfl some
      | cons first rest =>
        have ran : s.runScript set report first = (.error f, s) := by rw [runScript, unknown]
        rw [runBatch_cons_of_error ran]
    | @wordless origin _ after script os known cut ended untold =>
      subst cut
      have there : (s.runBatch set report before).2.document.origin = .ok origin :=
        (origin_runBatch set apart before s).trans known
      obtain ⟨t, ran⟩ := runScript_of_wordless report there untold
      rw [(runBatch_append (Prod.ext ended rfl) (script :: after)).1, runBatch_cons_of_error ran]
      rfl

/-- A batch that breaks off made the outcomes of the scripts before. -/
theorem made_of_breaksOff (apart : report.IsApart) {f : Fault} (broken : s.BreaksOff set report scripts before f) :
    ∃ os, (s.runBatch set report before).1 = .ok os ∧ s.made set report scripts = os := by
  cases broken with
  | nowhere some unknown =>
    refine ⟨[], rfl, ?_⟩
    cases scripts with
    | nil => exact absurd rfl some
    | cons first rest =>
      have ran : s.runScript set report first = (.error f, s) := by rw [runScript, unknown]
      exact made_cons_of_error ran rest
  | @wordless origin _ after script os known cut ended untold =>
    subst cut
    refine ⟨os, ended, ?_⟩
    obtain ⟨t, ran⟩ := runScript_of_wordless report
      ((origin_runBatch set apart before s).trans known) untold
    rw [(runBatch_append (Prod.ext ended rfl) (script :: after)).2, made_cons_of_error ran, List.append_nil]

theorem length_of_breaksOff {f : Fault} (broken : s.BreaksOff set report scripts before f) :
    before.length < scripts.length := by
  cases broken with
  | nowhere some => exact List.length_pos_iff.mpr some
  | wordless _ cut =>
    rw [cut, List.length_append]
    exact Nat.lt_add_of_pos_right (Nat.succ_pos _)

/-! ## Reporters with a state -/

/-- A reporter that has a state of its own, and may refuse reports. -/
def reporting (r : Outcome → σ → Option String × σ) : Reporter σ := fun o s =>
  ((r o s.engine).1, { s with engine := (r o s.engine).2 })

theorem apart_reporting (r : Outcome → σ → Option String × σ) : (reporting r).IsApart := ⟨fun _ _ => rfl, fun _ _ => rfl⟩

theorem engine_of_ok (r : Outcome → σ → Option String × σ) (ran : s.runScript set (reporting r) script = (.ok o, t)) :
    t.engine = (r o s.engine).2 := by
  obtain ⟨origin, error, u, -, code, -, rfl⟩ := runScript_ok ran
  have taken (t : Session σ) : (t.reported (reporting r) o).engine = (r o t.engine).2 := by
    rcases reported_cases (reporting r) o t with same | ⟨line, same⟩
    · rw [same]
      rfl
    · rw [same]
      rfl
  have settled : (u.settled script error).engine = u.engine := by cases error <;> rfl
  rw [taken, settled, engine_of_runCode code]

theorem engine_of_error {f : Fault} (ran : s.runScript set report script = (.error f, t)) : t.engine = s.engine := by
  rcases runScript_error ran with ⟨-, rfl⟩ | ⟨origin, -, code⟩
  · rfl
  · exact engine_of_runCode code

/-- The reporter took each outcome once, in order, and nothing else changed its state. -/
theorem engine_runBatch (r : Outcome → σ → Option String × σ) (scripts : List Script) (s : Session σ) :
    (s.runBatch set (reporting r) scripts).2.engine =
      (s.made set (reporting r) scripts).foldl (fun e o => (r o e).2) s.engine :=
  runBatch_foldl engine (fun e o => (r o e).2) (engine_of_ok r) engine_of_error scripts s

/-- A script that raises an error with an integer of 5001 digits. -/
def unwritten : Script := { id := some 1, name := "s", code := .str "raise ValueError(10**5000)" }

theorem act_unwriting (set : Setting σ) (a : Author) (s : Session σ) :
    s.act set a (unwriting.start capabilities) =
      (.error (.raised (.ref s.memory.next)), { s with memory := s.memory.withUnwritten }) := by
  rw [act, start_unwriting]
  rfl

variable (short : ("raise ValueError(10**5000)".length : Int) ≤ set.longest)
include short

theorem wordless_unwritten (origin : String) (s : Session σ) : s.Wordless set origin unwritten :=
  ⟨unwriting, _, _, unwriting_of_source short, act_unwriting set _ s, s.memory.isWritable_withUnwritten⟩

theorem runBatch_unwritten (known : s.document.origin = .ok origin) (rest : List Script) :
    s.runBatch set report (unwritten :: rest) = (.error wordless, { s with memory := s.memory.withUnwritten }) := by
  refine runBatch_cons_of_error ?_ rest
  have source : Program.ofSource set.longest unwritten.code = .ok unwriting := unwriting_of_source short
  simp only [runScript, known, runCode, source, act_unwriting, Trouble.told, s.memory.isWritable_withUnwritten]
  rfl

theorem breaksOff_unwritten (report : Reporter σ) (rest : List Script) (s : Session σ) :
    ∃ f, s.BreaksOff set report (unwritten :: rest) [] f := by
  cases known : s.document.origin with
  | error f => exact ⟨f, .nowhere (List.cons_ne_nil _ _) known⟩
  | ok origin => exact ⟨_, .wordless known rfl rfl (wordless_unwritten short origin s)⟩

end Session
end Userscript
