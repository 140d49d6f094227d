import Userscript.Proofs.Catalog.Normal
import Userscript.Proofs.Eligibility

/-!
# Userscript.Proofs.Catalog.WireForm

A script that was written and read again runs where, when and whether it did before.

Reading trims patterns, and so does matching; it drops a wish and a code that count as absent, and absent ones are
what they are taken for. No pattern gets lost: a list keeps its blank entries, without which a script that runs
nowhere would run everywhere.

* `Eligibility.decision_normal`: the decision on a URL is the same, and told with the trimmed pattern;
* `Phase.applies_orElse_null`: so are the phases that admit the script;
* `Script.normal_of_ofJson`: what was read from any data is in the form in which it is read again;
* `Script.wire_form_runs_alike`: all of it, for a script as it is and for data as anyone may have stored it.
-/

namespace Userscript

/-! ## Where it runs -/

namespace Eligibility

open Glob

variable (limits : Limits) (url : String)

/-- A pattern as it is told, without blanks at its ends. -/
def trimmed : Json → Json
  | .str p => .str (Text.trim p)
  | v => v

theorem freshHit_trim (p : String) : freshHit limits url (Text.trim p) = freshHit limits url p := by
  rw [freshHit, freshHit, Text.trim_trim]

theorem firstFresh_map_trim (patterns : List String) :
    firstFresh limits url (patterns.map Text.trim) = (firstFresh limits url patterns).map Text.trim := by
  have hits : freshHit limits url ∘ Text.trim = freshHit limits url := funext (freshHit_trim limits url)
  rw [firstFresh, List.find?_map, hits]
  rfl

theorem admissionOf_normal (s : Script) :
    admissionOf limits url s.normal =
      (admissionOf limits url s).map fun d => { d with pattern := d.pattern.map trimmed } := by
  have hits (patterns : List String) := firstFresh_map_trim limits url patterns
  simp only [admissionOf, Script.normal, List.map_eq_nil_iff, hits]
  split
  · rfl
  · cases firstFresh limits url s.matchPatterns with
    | some p => rfl
    | none => cases firstFresh limits url s.includePatterns <;> rfl

/-- A script that was written and read is decided on as before, and the pattern is told trimmed. -/
theorem decision_normal (s : Script) :
    decision limits url s.normal =
      { decision limits url s with pattern := (decision limits url s).pattern.map trimmed } := by
  have excludes : s.normal.excludePatterns = s.excludePatterns.map Text.trim := rfl
  rw [decision, decision, admissionOf_normal, excludes, firstFresh_map_trim]
  cases admissionOf limits url s with
  | none => rfl
  | some d => cases firstFresh limits url s.excludePatterns <;> rfl

end Eligibility

/-! ## When it runs -/

/-- A wish that counts as absent is none. -/
theorem Phase.applies_orElse_null (runAt phase : Json) :
    applies (runAt.orElse .null) phase = applies runAt phase := by
  have wish : wishOf (runAt.orElse .null) = wishOf runAt := Json.orElse_assoc runAt .null _
  rw [applies, applies, wish]

namespace Script

/-! ## Whether it runs -/

theorem hasCode_normal (s : Script) : s.normal.hasCode = s.hasCode := by
  change (s.code.orElse (.str "")).truthy = s.code.truthy
  rw [Json.orElse]
  split
  · rfl
  · next absent =>
    rw [Bool.eq_false_iff.mpr absent]
    rfl

/-! ## Stored data -/

/-- What was read from any data is in normal form. -/
theorem normal_of_ofJson {data : Json} {s : Script} (h : ofJson data = .ok s) : s.normal = s := by
  cases data with
  | obj fields =>
    obtain ⟨matches', includes, excludes, code, runAt, -, -⟩ := ofJson_eq_ok h
    have same {patterns : List String} {v : Json} (read : patternsOf v = .ok patterns) :
        patterns.map Text.trim = patterns :=
      (List.map_congr_left (areTrimmed_of_patternsOf read)).trans (List.map_id' _)
    have codeKept : s.code.orElse (.str "") = s.code := by rw [code, Json.orElse_orElse]
    have wishKept : s.runAt.orElse .null = s.runAt := by rw [runAt, Json.orElse_assoc, Json.orElse_orElse]
    rw [normal, codeKept, wishKept, same matches', same includes, same excludes]
  | _ => cases h

open Eligibility in
/-- A script can be read from what was written of it, and then it is in scope of the same URLs for the same reasons,
whatever the matchers were asked before, is admitted by the same phases, and is switched on and has code if it was and
had. What is read from data in any form that is accepted is the same once it was written and read again. -/
theorem wire_form_runs_alike :
    (∀ s : Script, ∃ t, ofJson s.toJson = .ok t ∧
      (∀ (limits : Glob.Limits) (url : String) (m m' : Glob.Matcher) (log log' : Log),
        m.Reached limits → m'.Reached limits → ∃ d d',
          (runOn (evaluate (.str url) s.scope) (m, log)).1 = .ok d ∧
          (runOn (evaluate (.str url) t.scope) (m', log')).1 = .ok d' ∧
          d'.eligible = d.eligible ∧ d'.reason = d.reason ∧ d'.pattern = d.pattern.map trimmed) ∧
      (∀ phase, Phase.applies t.runAt phase = Phase.applies s.runAt phase) ∧
      t.isEnabled = s.isEnabled ∧ t.hasCode = s.hasCode) ∧
    ∀ (data : Json) (s : Script), ofJson data = .ok s → ofJson s.toJson = .ok s := by
  constructor
  · intro s
    refine ⟨s.normal, ofJson_toJson s, fun limits url m m' log log' used used' => ?_,
      Phase.applies_orElse_null s.runAt, rfl, hasCode_normal s⟩
    obtain ⟨_, -, before⟩ := @answers_evaluate limits url s (m, log) used
    obtain ⟨_, -, after⟩ := @answers_evaluate limits url s.normal (m', log') used'
    rw [decision_normal] at after
    exact ⟨_, _, congrArg Prod.fst before, congrArg Prod.fst after, rfl, rfl, rfl⟩
  · intro data s h
    rw [ofJson_toJson, normal_of_ofJson h]

open Eligibility in
/-- A blank entry that keeps a script off every page, and data with patterns as text and as a list of anything. -/
theorem wire_form_runs_alike_blank :
    let s : Script := { code := .str "pass", matchPatterns := [" "], runAt := .str "" }
    let data : Json := .obj [("id", .str " 1_0 "), ("matches", .str " a* \n \n b"),
      ("includes", .arr [.str " ", .int 5, .null]), ("run_at", .str "document-idle"), ("enabled", .int 0)]
    (∃ t d, ofJson s.toJson = .ok t ∧
      (runOn (evaluate (.str "https://a.example/") t.scope) (.new {}, [])).1 = .ok d ∧ d.eligible = false) ∧
    ∃ u, ofJson data = .ok u ∧ u.matchPatterns = ["a*", "b"] ∧ u.includePatterns = ["", "5", "None"] ∧
      ofJson u.toJson = .ok u := by
  intro s data
  obtain ⟨runs, again⟩ := wire_form_runs_alike
  obtain ⟨t, read, alike, -⟩ := runs s
  obtain ⟨d, d', before, after, same, -⟩ := alike {} "https://a.example/" (.new {}) (.new {}) [] [] .new .new
  have off : d.eligible = false := by
    have told : (runOn (evaluate (.str "https://a.example/") s.scope) (.new {}, [])).1.toOption.map (·.eligible) =
        some false := by decide +kernel
    rw [before] at told
    exact Option.some.inj told
  obtain ⟨u, readData, hmatches, hincludes⟩ : ∃ u, ofJson data = .ok u ∧ u.matchPatterns = ["a*", "b"] ∧
      u.includePatterns = ["", "5", "None"] := ⟨_, rfl, by decide +kernel, by decide +kernel⟩
  exact ⟨⟨t, d', read, after, same.trans off⟩, u, readData, hmatches, hincludes, again data u readData⟩

end Script
end Userscript
