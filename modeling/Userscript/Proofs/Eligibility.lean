import Userscript.Eligibility
import Userscript.Proofs.Glob.Matching

/-!
# Userscript.Proofs.Eligibility

What is decided of a script and a URL, without a matcher.

The decision goes through the patterns of a script with a matcher that remembers. It never fails, and it is
the one that `decision` makes with patterns compiled anew, whatever the matcher was asked before.

* `answers_hitsM`: a matcher in use answers `freshHit`;
* `answers_evaluate`: `Eligibility.evaluate` answers `decision`.
-/

namespace Userscript.Eligibility

open Glob

variable {limits : Limits} {url : String}

def InUse (limits : Limits) (s : Matcher × Log) : Prop := s.1.Reached limits

def firstFresh (limits : Limits) (url : String) (patterns : List String) : Option String :=
  patterns.find? (freshHit limits url)

/-- What brings a URL in scope of a script, if anything. -/
def admissionOf (limits : Limits) (url : String) (s : Script) : Option Decision :=
  if s.matchPatterns = [] ∧ s.includePatterns = [] then some ⟨true, .matchAll, none⟩
  else match firstFresh limits url s.matchPatterns with
    | some p => some ⟨true, .matched, some (.str p)⟩
    | none => (firstFresh limits url s.includePatterns).map fun p => ⟨true, .included, some (.str p)⟩

def decision (limits : Limits) (url : String) (s : Script) : Decision :=
  match admissionOf limits url s with
  | none => ⟨false, .unmatched, none⟩
  | some d =>
    match firstFresh limits url s.excludePatterns with
    | some p => ⟨false, .excluded, some (.str p)⟩
    | none => d

theorem answers_hitsM (pattern : String) :
    Answers (InUse limits) (hitsM (.str url) (.str pattern)) (.ok (freshHit limits url pattern)) := by
  rintro ⟨m, log⟩ used
  obtain ⟨m', said, used', ran⟩ := runOn_hitsM used log url pattern
  exact ⟨(m', log ++ said), used', ran⟩

theorem answers_firstHitOf (patterns : List String) :
    Answers (InUse limits) (firstHitOf (.str url) (patterns.map .str))
      (.ok ((firstFresh limits url patterns).map .str)) := by
  induction patterns with
  | nil => exact .pure none
  | cons p rest ih =>
    rw [List.map_cons, firstHitOf]
    refine (answers_hitsM p).bind_ok ?_
    cases hit : freshHit limits url p with
    | true =>
      rw [firstFresh, List.find?_cons_of_pos hit]
      exact .pure _
    | false =>
      rw [firstFresh, List.find?_cons_of_neg (by rw [hit]; exact Bool.false_ne_true)]
      exact ih

theorem truthy_ofTexts (patterns : List String) :
    (Script.ofTexts patterns).truthy = !patterns.isEmpty := by
  cases patterns <;> rfl

theorem answers_firstHit (patterns : List String) :
    Answers (InUse limits) (firstHit (.str url) (Script.ofTexts patterns))
      (.ok ((firstFresh limits url patterns).map .str)) := by
  rw [firstHit, truthy_ofTexts]
  cases patterns with
  | nil => exact .pure none
  | cons p rest => exact answers_firstHitOf (p :: rest)

theorem answers_admission (s : Script) :
    Answers (InUse limits) (admission (.str url) s.scope) (.ok (admissionOf limits url s)) := by
  have unlimited : (!s.scope.matchPatterns.truthy && !s.scope.includePatterns.truthy) =
      decide (s.matchPatterns = [] ∧ s.includePatterns = []) := by
    rw [Script.scope, truthy_ofTexts, truthy_ofTexts, Bool.not_not, Bool.not_not]
    cases s.matchPatterns <;> cases s.includePatterns <;> rfl
  rw [admission, admissionOf, unlimited]
  by_cases both : s.matchPatterns = [] ∧ s.includePatterns = []
  · rw [if_pos both, if_pos (decide_eq_true both)]
    exact .pure _
  · rw [if_neg both, if_neg (by rw [decide_eq_false both]; exact Bool.false_ne_true)]
    refine (answers_firstHit s.matchPatterns).bind_ok ?_
    cases firstFresh limits url s.matchPatterns with
    | some p => exact .pure _
    | none =>
      refine (answers_firstHit s.includePatterns).bind_ok ?_
      cases firstFresh limits url s.includePatterns with
      | some p => exact .pure _
      | none => exact .pure _

/-- The decision on a script is the one made with patterns compiled anew. -/
theorem answers_evaluate (s : Script) :
    Answers (InUse limits) (evaluate (.str url) s.scope) (.ok (decision limits url s)) := by
  refine (answers_admission s).bind_ok ?_
  rw [decision]
  cases admissionOf limits url s with
  | none => exact .pure _
  | some d =>
    refine (answers_firstHit s.excludePatterns).bind_ok ?_
    cases firstFresh limits url s.excludePatterns with
    | none => exact .pure _
    | some p => exact .pure _

end Userscript.Eligibility
