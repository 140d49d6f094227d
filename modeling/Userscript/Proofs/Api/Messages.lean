import Userscript.Api.Remote
import Userscript.Proofs.Catalog.Normal

/-!
# Userscript.Proofs.Api.Messages

What is written into a message is read from it.

* `Reads check write`: a check gives back whatever the writer wrote, with no complaint;
* `Script.IsWellTyped` are the scripts whose fields are all of the types that a payload has room for;
* `scriptsOf_reply`: such scripts get to a host as they are, in their order.
-/

namespace Userscript

namespace Message

variable {α : Type} {check : Json → Checked α} {write : α → Json}

/-! ## Values -/

/-- A check gives back what was written. -/
def Reads (check : Json → Checked α) (write : α → Json) : Prop := ∀ a, check (write a) = .ok a

theorem reads_text : Reads text .str := fun _ => rfl

theorem reads_integer : Reads integer .int := fun _ => rfl

theorem reads_truth : Reads truth .bool := fun _ => rfl

theorem reads_phase : Reads phase (fun p => .str p.name) := by
  intro p
  cases p <;> rfl

theorem Reads.orNull (reads : Reads check write) (there : ∀ a, write a ≠ .null) :
    Reads (optional check) (orNull write) := by
  intro a
  cases a with
  | none => rfl
  | some a =>
    have present : optional check (write a) = (check (write a)).map some := by
      unfold optional
      split
      · next absent => exact absurd absent (there a)
      · rfl
    exact present.trans (congrArg (Except.map some) (reads a))

theorem Reads.list (reads : Reads check write) : Reads (list check) (fun l => .arr (l.map write)) := by
  have items (l : List α) (index : Nat) : itemsFrom check index (l.map write) = .ok l := by
    induction l generalizing index with
    | nil => rfl
    | cons a rest ih =>
      rw [List.map_cons, itemsFrom, ih, reads a]
      rfl
  exact fun l => items l 0

theorem reads_text_orNull : Reads (optional text) (orNull .str) := reads_text.orNull fun _ => Json.noConfusion

theorem reads_texts : Reads (Message.list text) Script.ofTexts := reads_text.list

/-! ## Fields -/

variable {name : String} {default a : α} {fields : Fields Json}

theorem field_eq_ok (reads : Reads check write) (found : Fields.get? name fields = some (write a)) :
    field name default check fields = .ok a := by
  rw [field, found]
  dsimp only
  rw [reads a]
  rfl

theorem field_eq_default (absent : Fields.get? name fields = none) :
    field name default check fields = .ok default := by
  rw [field, absent]

theorem required_eq_ok (reads : Reads check write) (found : Fields.get? name fields = some (write a)) :
    required name check fields = .ok a := by
  rw [required, found]
  dsimp only
  rw [reads a]
  rfl

/-! ## Payloads -/

namespace Payload

/-- The script that a payload tells of, field for field. -/
def asScript (p : Payload) : Script where
  id := p.id
  name := p.name
  code := .str p.code
  matchPatterns := p.matchPatterns
  includePatterns := p.includePatterns
  excludePatterns := p.excludePatterns
  runAt := orNull .str p.runAt
  enabled := orNull .bool p.enabled
  version := orNull .str p.version

theorem ofFields_eq_ok {fields : Fields Json} {p : Payload}
    (hid : Fields.get? "id" fields = some (orNull .int p.id))
    (hname : Fields.get? "name" fields = some (.str p.name))
    (hcode : Fields.get? "code" fields = some (.str p.code))
    (hmatches : Fields.get? "matches" fields = some (Script.ofTexts p.matchPatterns))
    (hincludes : Fields.get? "includes" fields = some (Script.ofTexts p.includePatterns))
    (hexcludes : Fields.get? "excludes" fields = some (Script.ofTexts p.excludePatterns))
    (hrunAt : Fields.get? "runAt" fields = some (orNull .str p.runAt))
    (henabled : Fields.get? "enabled" fields = some (orNull .bool p.enabled))
    (hversion : Fields.get? "version" fields = some (orNull .str p.version) ∨
      Fields.get? "version" fields = none ∧ p.version = none) :
    ofFields fields = .ok p := by
  -- A script without a version is written without the field, and its payload has the default.
  have version : field "version" none (optional text) fields = .ok p.version := by
    rcases hversion with found | ⟨absent, none⟩
    · exact field_eq_ok reads_text_orNull found
    · rw [none]
      exact field_eq_default absent
  rw [ofFields, field_eq_ok (reads_integer.orNull fun _ => Json.noConfusion) hid, field_eq_ok reads_text hname,
    field_eq_ok reads_text hcode, field_eq_ok reads_texts hmatches, field_eq_ok reads_texts hincludes,
    field_eq_ok reads_texts hexcludes, field_eq_ok reads_text_orNull hrunAt,
    field_eq_ok (reads_truth.orNull fun _ => Json.noConfusion) henabled, version]
  rfl

theorem reads_payload : Reads ofJson toJson := by
  intro p
  exact ofFields_eq_ok rfl rfl rfl rfl rfl rfl rfl rfl (.inl rfl)

theorem ofScript_asScript (p : Payload) : ofScript p.asScript = .ok p := by
  obtain ⟨id, name, code, ms, is, es, runAt, enabled, version⟩ := p
  cases id <;> cases version
  case none.none | some.none => exact ofFields_eq_ok rfl rfl rfl rfl rfl rfl rfl rfl (.inr ⟨rfl, rfl⟩)
  case none.some | some.some => exact ofFields_eq_ok rfl rfl rfl rfl rfl rfl rfl rfl (.inl rfl)

-- A payload writes its version even if it is null, a script does not: the reader takes both alike.
theorem toScript_eq (p : Payload) : p.toScript = .ok p.asScript.normal := by
  have same : Script.ofJson p.toJson = Script.ofJson p.asScript.toJson := by
    obtain ⟨id, name, code, ms, is, es, runAt, enabled, version⟩ := p
    cases id <;> cases version <;> rfl
  rw [toScript, same, Script.ofJson_toJson]

end Payload

/-! ## Messages -/

theorem SelectRequest.reads : Reads SelectRequest.ofJson SelectRequest.toJson := by
  intro m
  rw [SelectRequest.toJson, SelectRequest.ofJson, fieldsOf, required_eq_ok reads_text rfl,
    required_eq_ok reads_phase rfl]
  rfl

theorem SelectReply.reads : Reads SelectReply.ofJson SelectReply.toJson := by
  intro m
  rw [SelectReply.toJson, SelectReply.ofJson, fieldsOf, field_eq_ok Payload.reads_payload.list rfl]
  rfl

theorem RunReport.reads : Reads RunReport.ofJson RunReport.toJson := by
  intro m
  rw [RunReport.toJson, RunReport.ofJson, fieldsOf, required_eq_ok reads_integer rfl,
    required_eq_ok reads_truth rfl, field_eq_ok reads_text_orNull rfl]
  rfl

end Message

/-! ## Scripts -/

namespace Script

/-- The fields of a script have the types that a payload has room for; a wish when to run is not empty. -/
structure IsWellTyped (s : Script) : Prop where
  code : ∃ text, s.code = .str text
  matchPatterns : AreTrimmed s.matchPatterns
  includePatterns : AreTrimmed s.includePatterns
  excludePatterns : AreTrimmed s.excludePatterns
  runAt : s.runAt = .null ∨ ∃ wish, wish ≠ "" ∧ s.runAt = .str wish
  enabled : s.enabled = .null ∨ ∃ b, s.enabled = .bool b
  version : s.version = .null ∨ ∃ text, s.version = .str text

namespace IsWellTyped

variable {s : Script} (typed : s.IsWellTyped)

include typed

theorem isNormal : s.IsNormal := by
  obtain ⟨text, coded⟩ := typed.code
  have code : s.code.orElse (.str "") = s.code := by
    rw [coded]
    by_cases empty : text = ""
    · rw [empty]
      rfl
    · simp [Json.orElse, Json.truthy, empty]
  have runAt : s.runAt.orElse .null = s.runAt ∧ s.runAt.IsKept := by
    rcases typed.runAt with absent | ⟨wish, worded, said⟩
    · rw [absent]
      exact ⟨rfl, Json.isKept_null⟩
    · rw [said]
      exact ⟨by simp [Json.orElse, Json.truthy, worded], Json.isKept_str wish⟩
  have enabled : s.enabled.IsKept := by
    rcases typed.enabled with absent | ⟨b, said⟩
    · rw [absent]
      exact Json.isKept_null
    · rw [said]
      exact Json.isKept_bool b
  have version : s.version.IsKept := by
    rcases typed.version with absent | ⟨text, said⟩
    · rw [absent]
      exact Json.isKept_null
    · rw [said]
      exact Json.isKept_str text
  have kept : s.code.IsKept := by
    rw [coded]
    exact Json.isKept_str text
  exact ⟨code, runAt.1, typed.matchPatterns, typed.includePatterns, typed.excludePatterns,
    kept, runAt.2, enabled, version⟩

theorem exists_payload : ∃ p : Message.Payload, p.asScript = s := by
  obtain ⟨text, coded⟩ := typed.code
  have runAt : ∃ wish, Message.orNull Json.str wish = s.runAt := by
    rcases typed.runAt with absent | ⟨wish, -, said⟩
    · exact ⟨none, absent.symm⟩
    · exact ⟨some wish, said.symm⟩
  have enabled : ∃ switch, Message.orNull Json.bool switch = s.enabled := by
    rcases typed.enabled with absent | ⟨b, said⟩
    · exact ⟨none, absent.symm⟩
    · exact ⟨some b, said.symm⟩
  have version : ∃ version, Message.orNull Json.str version = s.version := by
    rcases typed.version with absent | ⟨text, said⟩
    · exact ⟨none, absent.symm⟩
    · exact ⟨some text, said.symm⟩
  -- Each field that may be absent is one that a payload may lack.
  obtain ⟨wish, runAt⟩ := runAt
  obtain ⟨switch, enabled⟩ := enabled
  obtain ⟨version, versioned⟩ := version
  refine ⟨⟨s.id, s.name, text, s.matchPatterns, s.includePatterns, s.excludePatterns, wish, switch, version⟩, ?_⟩
  rw [Message.Payload.asScript, runAt, enabled, versioned, ← coded]

theorem through_payload :
    ∃ p, Message.Payload.ofScript s = .ok p ∧ p.toScript = .ok s := by
  obtain ⟨p, rfl⟩ := typed.exists_payload
  refine ⟨p, p.ofScript_asScript, ?_⟩
  rw [p.toScript_eq, typed.isNormal.normal_eq]

end IsWellTyped
end Script

namespace Api

theorem through_payloads {l : List Script} (typed : ∀ s ∈ l, s.IsWellTyped) :
    ∃ ps, payloads l = .ok ps ∧ ps.mapM Message.Payload.toScript = .ok l := by
  induction l with
  | nil => exact ⟨[], rfl, rfl⟩
  | cons s rest ih =>
    rw [List.forall_mem_cons] at typed
    obtain ⟨p, there, back⟩ := typed.1.through_payload
    obtain ⟨ps, thereRest, backRest⟩ := ih typed.2
    rw [payloads] at thereRest
    refine ⟨p :: ps, ?_, ?_⟩
    · rw [payloads, List.mapM_cons, there, thereRest]
      rfl
    · rw [List.mapM_cons, back, backRest]
      rfl

/-- Scripts of the right types get to a host as they are, in their order. -/
theorem scriptsOf_reply {l : List Script} (typed : ∀ s ∈ l, s.IsWellTyped) :
    ∃ ps, payloads l = .ok ps ∧ Remote.scriptsOf (Message.SelectReply.mk ps).toJson = .ok l := by
  obtain ⟨ps, there, back⟩ := through_payloads typed
  refine ⟨ps, there, ?_⟩
  rw [Remote.scriptsOf, Message.SelectReply.reads]
  exact back

end Api
end Userscript
