import Userscript.Proofs.Glob.Cache

/-!
# Userscript.Proofs.Eligibility.Rules

The rules by which a URL is in scope of a script, read off its lists of patterns.

* `Hits` is what it means that a pattern hits. A pattern over the limits never does, but it stands in its list;
* `Decides` has one rule for each reason, and exactly one decision follows from them (`decides_iff`);
* `Decides.eligible_iff` forgets the reasons, and with them the order of the patterns;
* `evaluate_by_rules`: a matcher in use decides by the rules.
-/

namespace Userscript.Eligibility

open Glob

variable {limits : Limits} {url p : String} {patterns : List String} {s t : Script} {d : Decision}

/-! ## Hits -/

/-- A pattern that breaks a limit when it is trimmed. -/
def OverLimits (limits : Limits) (p : String) : Prop :=
  limits.maxLength < (Text.trim p).toList.length ∨ limits.maxStars < (Text.trim p).toList.count '*'

/-- A pattern hits a URL if it keeps the limits and the URL is in its language. -/
def Hits (limits : Limits) (url p : String) : Prop :=
  ¬ OverLimits limits p ∧ Covers (Text.trim p).toList url.toList

def Misses (limits : Limits) (url : String) (patterns : List String) : Prop := ∀ p ∈ patterns, ¬ Hits limits url p

/-- The pattern hits, and none before it in the list does. -/
def IsFirstHit (limits : Limits) (url : String) (patterns : List String) (p : String) : Prop :=
  Hits limits url p ∧ ∃ before after, patterns = before ++ p :: after ∧ Misses limits url before

theorem freshHit_iff_hits : freshHit limits url p = true ↔ Hits limits url p := by
  rw [freshHit_iff_covers, Hits, OverLimits, not_or, Int.not_lt, Int.not_lt, and_assoc]

theorem firstFresh_eq_none_iff : firstFresh limits url patterns = none ↔ Misses limits url patterns := by
  rw [firstFresh, List.find?_eq_none]
  exact forall₂_congr fun p _ => not_congr freshHit_iff_hits

theorem firstFresh_eq_some_iff :
    firstFresh limits url patterns = some p ↔ IsFirstHit limits url patterns p := by
  have missed (before : List String) :
      (∀ q ∈ before, (!freshHit limits url q) = true) ↔ Misses limits url before := by
    refine forall₂_congr fun q _ => ?_
    rw [Bool.not_eq_true', Bool.eq_false_iff, ne_eq, freshHit_iff_hits]
  rw [firstFresh, List.find?_eq_some_iff_append, freshHit_iff_hits, IsFirstHit]
  exact and_congr_right fun _ => exists₂_congr fun before _ => and_congr_right fun _ => missed before

theorem IsFirstHit.mem (h : IsFirstHit limits url patterns p) : p ∈ patterns := by
  obtain ⟨-, before, after, rfl, -⟩ := h
  exact List.mem_append_right _ List.mem_cons_self

/-! ## Rules -/

/-- The patterns that can bring a URL in scope. -/
def positive (s : Script) : List String := s.matchPatterns ++ s.includePatterns

/-- A URL is admitted where there is no such pattern, or one of them hits. -/
def Admits (limits : Limits) (url : String) (s : Script) : Prop :=
  positive s = [] ∨ ∃ p ∈ positive s, Hits limits url p

/-- The decision on a script and a URL, one rule for each reason. -/
inductive Decides (limits : Limits) (url : String) (s : Script) : Decision → Prop where
  /-- Whatever the excludes. -/
  | unmatched : positive s ≠ [] → Misses limits url (positive s) → Decides limits url s ⟨false, .unmatched, none⟩
  | excluded {p : String} : Admits limits url s → IsFirstHit limits url s.excludePatterns p →
      Decides limits url s ⟨false, .excluded, some (.str p)⟩
  | matchAll : positive s = [] → Misses limits url s.excludePatterns → Decides limits url s ⟨true, .matchAll, none⟩
  | matched {p : String} : IsFirstHit limits url s.matchPatterns p → Misses limits url s.excludePatterns →
      Decides limits url s ⟨true, .matched, some (.str p)⟩
  | included {p : String} : Misses limits url s.matchPatterns → IsFirstHit limits url s.includePatterns p →
      Misses limits url s.excludePatterns → Decides limits url s ⟨true, .included, some (.str p)⟩

theorem positive_eq_nil_iff : positive s = [] ↔ s.matchPatterns = [] ∧ s.includePatterns = [] :=
  List.append_eq_nil_iff

theorem admits_of_matched (h : IsFirstHit limits url s.matchPatterns p) : Admits limits url s :=
  .inr ⟨p, List.mem_append_left _ h.mem, h.1⟩

theorem admits_of_included (h : IsFirstHit limits url s.includePatterns p) : Admits limits url s :=
  .inr ⟨p, List.mem_append_right _ h.mem, h.1⟩

theorem misses_positive_iff :
    Misses limits url (positive s) ↔ Misses limits url s.matchPatterns ∧ Misses limits url s.includePatterns :=
  List.forall_mem_append

/-- What brings a URL in scope is told by the rules that do not ask for excludes. -/
theorem admissionOf_cases (limits : Limits) (url : String) (s : Script) :
    (positive s ≠ [] ∧ Misses limits url (positive s) ∧ admissionOf limits url s = none) ∨
    ∃ d, admissionOf limits url s = some d ∧ Admits limits url s ∧
      (Misses limits url s.excludePatterns → Decides limits url s d) := by
  unfold admissionOf
  split
  · next all => exact .inr ⟨_, rfl, .inl (positive_eq_nil_iff.mpr all), .matchAll (positive_eq_nil_iff.mpr all)⟩
  · next both =>
    have some : positive s ≠ [] := fun none => both (positive_eq_nil_iff.mp none)
    cases hit : firstFresh limits url s.matchPatterns with
    | some p =>
      have first := firstFresh_eq_some_iff.mp hit
      exact .inr ⟨_, rfl, admits_of_matched first, .matched first⟩
    | none =>
      have missed := firstFresh_eq_none_iff.mp hit
      cases hit : firstFresh limits url s.includePatterns with
      | some p =>
        have first := firstFresh_eq_some_iff.mp hit
        exact .inr ⟨_, rfl, admits_of_included first, .included missed first⟩
      | none => exact .inl ⟨some, misses_positive_iff.mpr ⟨missed, firstFresh_eq_none_iff.mp hit⟩, rfl⟩

theorem decides_decision (limits : Limits) (url : String) (s : Script) :
    Decides limits url s (decision limits url s) := by
  rw [decision]
  obtain ⟨some, missed, admission⟩ | ⟨d, admission, admits, decides⟩ := admissionOf_cases limits url s
  · rw [admission]
    exact .unmatched some missed
  · rw [admission]
    cases hit : firstFresh limits url s.excludePatterns with
    | some p => exact .excluded admits (firstFresh_eq_some_iff.mp hit)
    | none => exact decides (firstFresh_eq_none_iff.mp hit)

theorem not_admits_of_misses (some : positive s ≠ []) (missed : Misses limits url (positive s)) :
    ¬ Admits limits url s := by
  rintro (none | ⟨p, mem, hit⟩)
  · exact some none
  · exact missed p mem hit

/-- Whether a decision brings a URL in scope. -/
theorem Decides.eligible_iff (h : Decides limits url s d) :
    d.eligible = true ↔ Admits limits url s ∧ Misses limits url s.excludePatterns := by
  cases h with
  | unmatched some missed => simp [not_admits_of_misses some missed]
  | excluded _ first =>
    refine ⟨nofun, fun ⟨_, missed⟩ => absurd first.1 (missed _ first.mem)⟩
  | matchAll all missed => exact ⟨fun _ => ⟨.inl all, missed⟩, fun _ => rfl⟩
  | matched first missed => exact ⟨fun _ => ⟨admits_of_matched first, missed⟩, fun _ => rfl⟩
  | included _ first missed => exact ⟨fun _ => ⟨admits_of_included first, missed⟩, fun _ => rfl⟩

/-- No two decisions follow from the rules. -/
theorem Decides.eq_decision (h : Decides limits url s d) : d = decision limits url s := by
  have positive_of_mem {q : String} (mem : q ∈ positive s) : ¬ (s.matchPatterns = [] ∧ s.includePatterns = []) :=
    fun none => List.ne_nil_of_mem mem (positive_eq_nil_iff.mpr none)
  cases h with
  | unmatched some missed =>
    obtain ⟨noMatch, noInclude⟩ := misses_positive_iff.mp missed
    rw [decision, admissionOf, if_neg fun none => some (positive_eq_nil_iff.mpr none),
      firstFresh_eq_none_iff.mpr noMatch, firstFresh_eq_none_iff.mpr noInclude]
    rfl
  | excluded admits first =>
    obtain ⟨some, missed, -⟩ | ⟨_, admission, -⟩ := admissionOf_cases limits url s
    · exact absurd admits (not_admits_of_misses some missed)
    · rw [decision, admission, firstFresh_eq_some_iff.mpr first]
  | matchAll all missed =>
    rw [decision, admissionOf, if_pos (positive_eq_nil_iff.mp all), firstFresh_eq_none_iff.mpr missed]
  | matched first missed =>
    rw [decision, admissionOf, if_neg (positive_of_mem (List.mem_append_left _ first.mem)),
      firstFresh_eq_some_iff.mpr first, firstFresh_eq_none_iff.mpr missed]
  | included noMatch first missed =>
    rw [decision, admissionOf, if_neg (positive_of_mem (List.mem_append_right _ first.mem)),
      firstFresh_eq_none_iff.mpr noMatch, firstFresh_eq_some_iff.mpr first, Option.map_some,
      firstFresh_eq_none_iff.mpr missed]

/-- Exactly one decision follows from the rules. -/
theorem decides_iff : Decides limits url s d ↔ d = decision limits url s :=
  ⟨Decides.eq_decision, fun same => same ▸ decides_decision limits url s⟩

/-! ## Changes of the lists -/

theorem Misses.mono {qs : List String} (h : Misses limits url qs) (part : patterns ⊆ qs) : Misses limits url patterns :=
  fun p mem => h p (part mem)

/-- With more positive patterns, and one at least before, what was admitted still is. -/
theorem Admits.mono (h : Admits limits url s) (some : positive s ≠ []) (part : positive s ⊆ positive t) :
    Admits limits url t := by
  obtain none | ⟨p, mem, hit⟩ := h
  · exact absurd none some
  · exact .inr ⟨p, part mem, hit⟩

/-- Which positive patterns there are decides on admission. -/
theorem Admits.congr (h : Admits limits url s) (same : ∀ p, p ∈ positive s ↔ p ∈ positive t) :
    Admits limits url t := by
  by_cases none : positive s = []
  · refine .inl (List.eq_nil_iff_forall_not_mem.mpr fun p mem => ?_)
    have := (same p).mpr mem
    rw [none] at this
    exact List.not_mem_nil this
  · exact h.mono none fun p => (same p).mp

/-! ## Evaluation -/

/-- A matcher in use under the limits may decide so, whatever it was asked before. -/
def Told (limits : Limits) (url : String) (s : Script) (d : Decision) : Prop :=
  ∃ m log left, Matcher.Reached limits m ∧ runOn (evaluate (.str url) s.scope) (m, log) = (.ok d, left)

theorem runOn_evaluate {m : Matcher} (used : m.Reached limits) (log : Log) (url : String) (s : Script) :
    ∃ m' log', m'.Reached limits ∧
      runOn (evaluate (.str url) s.scope) (m, log) = (.ok (decision limits url s), m', log') := by
  obtain ⟨⟨m', log'⟩, used', ran⟩ := answers_evaluate s (m, log) used
  exact ⟨m', log', used', ran⟩

theorem Told.decides (h : Told limits url s d) : Decides limits url s d := by
  obtain ⟨m, log, left, used, ran⟩ := h
  obtain ⟨_, _, -, ran'⟩ := runOn_evaluate used log url s
  rw [ran] at ran'
  exact decides_iff.mpr (Except.ok.inj (congrArg Prod.fst ran'))

/-- The shared matcher decides too, under the limits that count for it. -/
theorem shared_told {e : Config.Environment} {start : Option Config} {calls : List Shared.Call} {c : Config}
    (counts : Shared.limiting e start calls = .ok c) (log : Log) (url : String) (s : Script) :
    ∃ d left, runOn (Shared.onMatcher e (evaluate (.str url) s.scope))
        (Shared.after e calls ({ config := start }, log)) = (.ok d, left) ∧ Told c.limits url s d := by
  have there := (Shared.stands_after e start calls log).runOn_matcherM
  rw [counts] at there
  obtain ⟨m, config, used, -, ran⟩ := there
  generalize Shared.after e calls ({ config := start }, log) = left at ran ⊢
  obtain ⟨_, _, -, told⟩ := runOn_evaluate used left.2 url s
  rw [Shared.runOn_onMatcher, ran]
  dsimp only
  rw [told]
  exact ⟨_, _, rfl, m, left.2, _, used, told⟩

/-- A matcher in use always decides, the shared one too, and as the rules say. So a URL is in scope if and only if it
is admitted and no exclude hits, and it is not where all positive patterns, one at least, are over the limits. Of the
lists it matters only which patterns are in them. More excludes bring no URL in scope, and more positive patterns,
where there was one, take none out of it. -/
theorem evaluate_by_rules (limits : Limits) (url : String) (s : Script) :
    (∀ m log, Matcher.Reached limits m → ∃ d m' log', m'.Reached limits ∧
      runOn (evaluate (.str url) s.scope) (m, log) = (.ok d, m', log')) ∧
    (∀ e start calls log c, Shared.limiting e start calls = .ok c → c.limits = limits → ∃ d left,
      runOn (Shared.onMatcher e (evaluate (.str url) s.scope)) (Shared.after e calls ({ config := start }, log)) =
        (.ok d, left) ∧ Told limits url s d) ∧
    ∀ d, Told limits url s d →
      (∀ d', Decides limits url s d' ↔ d' = d) ∧
      (d.eligible = true ↔ Admits limits url s ∧ Misses limits url s.excludePatterns) ∧
      (positive s ≠ [] → (∀ p ∈ positive s, OverLimits limits p) → d = ⟨false, .unmatched, none⟩) ∧
      ∀ t d', Told limits url t d' →
        ((∀ p, p ∈ positive s ↔ p ∈ positive t) → (∀ p, p ∈ s.excludePatterns ↔ p ∈ t.excludePatterns) →
          d'.eligible = d.eligible) ∧
        ((∀ p, p ∈ positive s ↔ p ∈ positive t) → s.excludePatterns ⊆ t.excludePatterns →
          d.eligible = false → d'.eligible = false) ∧
        (positive s ≠ [] → positive s ⊆ positive t → (∀ p, p ∈ s.excludePatterns ↔ p ∈ t.excludePatterns) →
          d.eligible = true → d'.eligible = true) := by
  refine ⟨fun m log used => ⟨_, runOn_evaluate used log url s⟩,
    fun e start calls log c counts same => same ▸ shared_told counts log url s, fun d told => ?_⟩
  -- The rest is about the rules alone, which determine the decision.
  have rules := told.decides
  refine ⟨fun d' => ?_, rules.eligible_iff, fun some long => ?_, fun t d' told' => ?_⟩
  · rw [decides_iff, ← rules.eq_decision]
  · have unmatched : Decides limits url s ⟨false, .unmatched, none⟩ :=
      .unmatched some fun p mem hit => hit.1 (long p mem)
    rw [rules.eq_decision, ← unmatched.eq_decision]
  · have rules' := told'.decides
    refine ⟨fun same excludes => ?_, fun same more out => ?_, fun some more excludes isIn => ?_⟩
    · rw [Bool.eq_iff_iff, rules.eligible_iff, rules'.eligible_iff]
      constructor
      · rintro ⟨admits, missed⟩
        exact ⟨admits.congr fun p => (same p).symm, missed.mono fun p => (excludes p).mp⟩
      · rintro ⟨admits, missed⟩
        exact ⟨admits.congr same, missed.mono fun p => (excludes p).mpr⟩
    · rw [Bool.eq_false_iff] at out ⊢
      intro isIn
      obtain ⟨admits, missed⟩ := rules'.eligible_iff.mp isIn
      exact out (rules.eligible_iff.mpr ⟨admits.congr fun p => (same p).symm, missed.mono more⟩)
    · obtain ⟨admits, missed⟩ := rules.eligible_iff.mp isIn
      exact rules'.eligible_iff.mpr ⟨admits.mono some more, missed.mono fun p => (excludes p).mpr⟩

/-- A pattern that is too long, before one that hits, and the two in another order and with repetitions. -/
theorem evaluate_by_rules_too_long :
    let limits : Limits := { maxLength := 4 }
    let s : Script := { matchPatterns := ["abcde*", " a* "], excludePatterns := ["b*"] }
    let t : Script := { matchPatterns := [" a* "], includePatterns := [" a* ", "abcde*"], excludePatterns := ["b*"] }
    OverLimits limits "abcde*" ∧ Decides limits "abc" s ⟨true, .matched, some (.str " a* ")⟩ ∧
      Admits limits "abc" s ∧ Misses limits "abc" s.excludePatterns ∧
      ∀ d', Told limits "abc" t d' → d'.eligible = true := by
  intro limits s t
  have told : Told limits "abc" s ⟨true, .matched, some (.str " a* ")⟩ := ⟨.new limits, [], _, .new, rfl⟩
  obtain ⟨-, -, rules⟩ := evaluate_by_rules limits "abc" s
  obtain ⟨unique, isIn, -, changed⟩ := rules _ told
  obtain ⟨admits, missed⟩ := isIn.mp rfl
  refine ⟨.inl (by decide), (unique _).mpr rfl, admits, missed, fun d' told' => ?_⟩
  obtain ⟨same, -, -⟩ := changed t d' told'
  exact same (by simp [positive, s, t, or_comm]) fun _ => Iff.rfl

end Userscript.Eligibility
