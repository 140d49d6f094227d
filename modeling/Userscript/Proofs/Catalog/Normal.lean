import Mathlib.Data.List.DropRight
import Userscript.Catalog.Database
import Userscript.Proofs.Json.Kept

/-!
# Userscript.Proofs.Catalog.Normal

The normal forms of what a catalog holds, and that stored data keeps them.

* `Script.normal` is the script that is read from what was written of one (`Script.ofJson_toJson`);
* `Script.IsNormal` is what every script is that was read from plain data (`Script.FromPlain.isNormal`); such a
  script is its own normal form (`Script.IsNormal.normal_eq`);
* `Settings.normal` are the settings as they are saved (`Settings.ofJson_toJson`), and `Settings.reread` as a database
  gives them back, which changes nothing but the theme;
* `RunRecord.IsOwn` is what every record is that a ledger made itself (`RunRecord.ofJson_toJson`).
-/

namespace Userscript

/-! ## Blanks -/

namespace Text

theorem trimLeft_of_prefix {cs ds : List Char} (h : ds <+: trimLeft cs) : trimLeft ds = ds := by
  cases ds with
  | nil => rfl
  | cons c tail =>
    obtain ⟨more, hmore⟩ := h
    have hne : cs.dropWhile isBlank ≠ [] := by
      rw [← trimLeft, ← hmore]
      exact List.cons_ne_nil c _
    have hc := List.head_dropWhile_not isBlank hne
    rw [trimLeft] at hmore
    simp only [← hmore, List.cons_append, List.head_cons] at hc
    rw [trimLeft, List.dropWhile_cons_of_neg (by rw [hc]; exact Bool.false_ne_true)]

theorem trim_trim (s : String) : trim (trim s) = trim s := by
  have hprefix : trimRight (trimLeft s.toList) <+: trimLeft s.toList := List.rdropWhile_prefix isBlank _
  have hright : trimRight (trimRight (trimLeft s.toList)) = trimRight (trimLeft s.toList) :=
    List.rdropWhile_idempotent isBlank _
  rw [trim, trim, String.toList_ofList, trimLeft_of_prefix hprefix, hright]

end Text

/-! ## Data that counts as present -/

namespace Json

theorem orElse_orElse (a b : Json) : (a.orElse b).orElse b = a.orElse b := by
  unfold orElse
  cases ha : a.truthy with
  | true => simp [ha]
  | false => simp

theorem orElse_assoc (a b c : Json) : (a.orElse b).orElse c = a.orElse (b.orElse c) := by
  unfold orElse
  cases ha : a.truthy with
  | true => simp [ha]
  | false => simp

/-- Whatever two values share, the one that is taken has. -/
theorem of_orElse {P : Json → Prop} {v w : Json} (hv : P v) (hw : P w) : P (v.orElse w) := by
  unfold Json.orElse
  split
  · exact hv
  · exact hw

theorem isShort_of_inRange {n : Int} (h : Catalog.Database.inRange n = true) : IsShort n := by
  have hpow {m : Nat} (hm : 20 ≤ m) : Nat.pow 10 20 ≤ Nat.pow 10 m := Nat.pow_le_pow_right (by decide) hm
  have hn : n.natAbs < Nat.pow 10 20 := by
    simp only [Catalog.Database.inRange, Bool.and_eq_true, decide_eq_true_eq] at h
    have : Nat.pow 10 20 = 100000000000000000000 := by decide
    omega
  exact Nat.lt_of_lt_of_le hn (hpow (by decide))

end Json

/-! ## Scripts -/

namespace Script

/-- Data of which the fields of a script are made: text, a list of texts, a truth value, or nothing. -/
inductive IsPlain : Json → Prop where
  | null : IsPlain .null
  | bool (b : Bool) : IsPlain (.bool b)
  | str (s : String) : IsPlain (.str s)
  | texts (texts : List String) : IsPlain (ofTexts texts)

/-- A script that was read from plain data, its id from an integer or plain data. -/
def FromPlain (s : Script) : Prop :=
  ∃ fields : Fields Json,
    (∀ f ∈ fields, IsPlain f.2 ∨ f.1 = "id" ∧ ∃ n, f.2 = .int n) ∧ ofJson (.obj fields) = .ok s

def AreTrimmed (patterns : List String) : Prop := ∀ p ∈ patterns, Text.trim p = p

/-- A script that is the same when it is written and read. -/
structure IsNormal (s : Script) : Prop where
  code : s.code.orElse (.str "") = s.code
  runAt : s.runAt.orElse .null = s.runAt
  matchPatterns : AreTrimmed s.matchPatterns
  includePatterns : AreTrimmed s.includePatterns
  excludePatterns : AreTrimmed s.excludePatterns
  kept : s.code.IsKept ∧ s.runAt.IsKept ∧ s.enabled.IsKept ∧ s.version.IsKept

theorem IsPlain.isKept {v : Json} (h : IsPlain v) : v.IsKept := by
  cases h with
  | null => exact Json.isKept_null
  | bool b => exact Json.isKept_bool b
  | str s => exact Json.isKept_str s
  | texts texts => exact Json.isKept_texts texts

theorem isPlain_field {fields : Fields Json} (h : ∀ f ∈ fields, IsPlain f.2 ∨ f.1 = "id" ∧ ∃ n, f.2 = .int n)
    {name : String} (hname : name ≠ "id") : IsPlain (Json.field name fields) := by
  rw [Json.field]
  induction fields with
  | nil => exact .null
  | cons f rest ih =>
    obtain ⟨k, v⟩ := f
    rw [List.forall_mem_cons] at h
    by_cases hk : k = name
    · rcases h.1 with hv | ⟨hid, -⟩
      · rw [Fields.get?, if_pos hk]
        exact hv
      · exact absurd (hk.symm.trans hid) hname
    · rw [Fields.get?, if_neg hk]
      exact ih h.2

theorem areTrimmed_of_patternsOf {v : Json} {patterns : List String} (h : patternsOf v = .ok patterns) :
    AreTrimmed patterns := by
  intro p hp
  unfold patternsOf at h
  split at h
  · cases h
    cases hp
  · split at h
    · cases h
      obtain ⟨line, -, rfl⟩ := List.mem_map.1 (List.mem_filter.1 hp).1
      exact Text.trim_trim line
    · obtain ⟨items, -, rfl⟩ := map_eq_ok h
      obtain ⟨item, -, rfl⟩ := List.mem_map.1 hp
      exact Text.trim_trim item.display

theorem patternsOf_ofTexts (patterns : List String) :
    patternsOf (ofTexts patterns) = .ok (patterns.map Text.trim) := by
  cases patterns with
  | nil => rfl
  | cons p rest =>
    have hitems : ((p :: rest).map Json.str).map (fun v => Text.trim v.display) = (p :: rest).map Text.trim := by
      rw [List.map_map]
      rfl
    exact congrArg Except.ok hitems

/-- What the fields of a script are read from. -/
theorem ofJson_eq_ok {fields : Fields Json} {s : Script} (h : ofJson (.obj fields) = .ok s) :
    patternsOf (Json.field "matches" fields) = .ok s.matchPatterns ∧
    patternsOf (Json.field "includes" fields) = .ok s.includePatterns ∧
    patternsOf (Json.field "excludes" fields) = .ok s.excludePatterns ∧
    s.code = (Json.field "code" fields).orElse (.str "") ∧
    s.runAt = (Json.field "runAt" fields).orElse ((Json.field "run_at" fields).orElse .null) ∧
    s.enabled = Json.field "enabled" fields ∧ s.version = Json.field "version" fields := by
  rw [ofJson] at h
  split at h
  all_goals
    obtain ⟨id, -, h⟩ := bind_eq_ok h
    obtain ⟨matchPatterns, hmatches, h⟩ := bind_eq_ok h
    obtain ⟨includePatterns, hincludes, h⟩ := bind_eq_ok h
    obtain ⟨excludePatterns, hexcludes, h⟩ := bind_eq_ok h
    obtain rfl := Except.ok.inj h
    exact ⟨hmatches, hincludes, hexcludes, rfl, rfl, rfl, rfl⟩

theorem FromPlain.isNormal {s : Script} (h : s.FromPlain) : s.IsNormal := by
  obtain ⟨fields, hplain, hread⟩ := h
  obtain ⟨hmatches, hincludes, hexcludes, hcode, hrunAt, henabled, hversion⟩ := ofJson_eq_ok hread
  have hfield {name : String} (hname : name ≠ "id") := isPlain_field hplain hname
  have hlate : IsPlain ((Json.field "run_at" fields).orElse .null) :=
    Json.of_orElse (hfield (by decide)) .null
  constructor
  case code => rw [hcode, Json.orElse_orElse]
  case runAt => rw [hrunAt, Json.orElse_assoc, Json.orElse_orElse]
  case matchPatterns => exact areTrimmed_of_patternsOf hmatches
  case includePatterns => exact areTrimmed_of_patternsOf hincludes
  case excludePatterns => exact areTrimmed_of_patternsOf hexcludes
  case kept =>
    rw [hcode, hrunAt, henabled, hversion]
    have hcoded : IsPlain ((Json.field "code" fields).orElse (.str "")) := Json.of_orElse (hfield (by decide)) (.str "")
    have hwish : IsPlain ((Json.field "runAt" fields).orElse _) := Json.of_orElse (hfield (by decide)) hlate
    exact ⟨hcoded.isKept, hwish.isKept,
      (hfield (by decide)).isKept, (hfield (by decide)).isKept⟩

theorem IsNormal.withId {s : Script} (h : s.IsNormal) (n : Int) : IsNormal { s with id := some n } :=
  { h with }

/-- What is found in the fields of a script that was written. -/
theorem field_toFields (s : Script) :
    Json.field "id" s.toFields = (s.id.map .int).getD .null ∧
    Json.field "name" s.toFields = .str s.name ∧ Json.field "code" s.toFields = s.code ∧
    Json.field "matches" s.toFields = ofTexts s.matchPatterns ∧
    Json.field "includes" s.toFields = ofTexts s.includePatterns ∧
    Json.field "excludes" s.toFields = ofTexts s.excludePatterns ∧
    Json.field "runAt" s.toFields = s.runAt ∧ Json.field "run_at" s.toFields = .null ∧
    Json.field "enabled" s.toFields = s.enabled ∧ Json.field "version" s.toFields = s.version := by
  cases hid : s.id <;> cases hversion : s.version <;> simp [toFields, hid, hversion, Json.field, Fields.get?]

theorem display_orElse (s : String) : ((Json.str s).orElse (.str "")).display = s := by
  unfold Json.orElse
  split
  · rfl
  · rename_i hempty
    have hs : s = "" := by simpa [Json.truthy] using hempty
    rw [hs]
    rfl

/-- A script as it is read from what was written of it. -/
def normal (s : Script) : Script :=
  { s with
    code := s.code.orElse (.str "")
    matchPatterns := s.matchPatterns.map Text.trim
    includePatterns := s.includePatterns.map Text.trim
    excludePatterns := s.excludePatterns.map Text.trim
    runAt := s.runAt.orElse .null }

theorem ofJson_toJson (s : Script) : ofJson s.toJson = .ok s.normal := by
  obtain ⟨hid, hname, hcode, hmatches, hincludes, hexcludes, hrunAt, hlate, henabled, hversion⟩ := field_toFields s
  have hnull : (Json.null).orElse .null = .null := rfl
  rw [toJson, ofJson, hid, hname, hcode, hmatches, hincludes, hexcludes, hrunAt, hlate, henabled, hversion,
    patternsOf_ofTexts, patternsOf_ofTexts, patternsOf_ofTexts, display_orElse, hnull]
  obtain ⟨id, name, code, ms, is, es, runAt, enabled, version⟩ := s
  cases id with
  | none => rfl
  | some n => rfl

theorem IsNormal.normal_eq {s : Script} (h : s.IsNormal) : s.normal = s := by
  have htrimmed {patterns : List String} (hp : AreTrimmed patterns) : patterns.map Text.trim = patterns :=
    (List.map_congr_left hp).trans (List.map_id' _)
  rw [normal, h.code, h.runAt, htrimmed h.matchPatterns, htrimmed h.includePatterns, htrimmed h.excludePatterns]

/-- Text keeps what a script carries as it came. -/
def Kept (s : Script) : Prop := s.code.IsKept ∧ s.runAt.IsKept ∧ s.enabled.IsKept ∧ s.version.IsKept

theorem isNormal_normal {s : Script} (h : s.Kept) : s.normal.IsNormal := by
  obtain ⟨hcode, hrunAt, henabled, hversion⟩ := h
  have htrimmed (patterns : List String) : AreTrimmed (patterns.map Text.trim) := by
    intro p hp
    obtain ⟨q, -, rfl⟩ := List.mem_map.1 hp
    exact Text.trim_trim q
  exact {
    code := Json.orElse_orElse s.code (.str "")
    runAt := Json.orElse_orElse s.runAt .null
    matchPatterns := htrimmed _
    includePatterns := htrimmed _
    excludePatterns := htrimmed _
    kept := ⟨Json.of_orElse hcode (Json.isKept_str ""), Json.of_orElse hrunAt Json.isKept_null, henabled, hversion⟩ }

theorem isKept_toJson {s : Script} (h : s.Kept) (hid : ∀ n, s.id = some n → Json.IsShort n) :
    s.toJson.IsKept := by
  obtain ⟨hcode, hrunAt, henabled, hversion⟩ := h
  refine .obj ?_ ?_
  · rw [toFields, List.forall_mem_append]
    constructor
    · simp only [List.forall_mem_cons]
      refine ⟨?_, Json.isKept_str _, hcode, Json.isKept_texts _, Json.isKept_texts _, Json.isKept_texts _, hrunAt,
        henabled, List.forall_mem_nil _⟩
      cases hs : s.id with
      | none => exact Json.isKept_null
      | some n => exact Json.isKept_int (hid n hs)
    · intro f hf
      split at hf
      · cases hf
      · rw [List.mem_singleton.1 hf]
        exact hversion
  · cases hversion : s.version <;> simp [toFields, hversion]

end Script

/-! ## Settings -/

namespace Settings

def normal (s : Settings) : Settings := { s with theme := s.theme.orElse (.str "system") }

theorem ofJson_toJson (s : Settings) : ofJson s.toJson = .ok s.normal := by
  have hhosts : (s.pausedHosts.map Json.str).map Json.display = s.pausedHosts := by
    rw [List.map_map]
    exact List.map_id _
  simp [ofJson, toJson, normal, Json.truthy, Json.field, Fields.get?, hhosts]

theorem normal_normal (s : Settings) : s.normal.normal = s.normal := by
  rw [normal, normal, Json.orElse_orElse]

theorem writable_normal {s : Settings} (h : s.theme.Writable) : s.normal.theme.Writable := Json.of_orElse h trivial

theorem writable_toJson {s : Settings} (h : s.theme.Writable) : s.toJson.Writable :=
  ⟨h, trivial, (Json.isKept_texts s.pausedHosts).writable, trivial⟩

theorem isKept_normal {s : Settings} (h : s.theme.IsKept) : s.normal.theme.IsKept := by
  rw [normal]
  exact Json.of_orElse h (Json.isKept_str "system")

theorem isKept_toJson {s : Settings} (h : s.theme.IsKept) : s.toJson.IsKept := by
  refine .obj ?_ (by simp)
  simp only [List.forall_mem_cons]
  exact ⟨h, Json.isKept_bool _, Json.isKept_texts _, List.forall_mem_nil _⟩

/-- Settings as a database gives them back. -/
def reread (s : Settings) : Settings := normal { s.normal with theme := s.normal.theme.image }

theorem image_toJson (s : Settings) : s.toJson.image = toJson { s with theme := s.theme.image } := by
  have hosts : Json.itemImages (s.pausedHosts.map Json.str) = s.pausedHosts.map .str :=
    Json.arr.inj (Json.isKept_texts s.pausedHosts).image
  have fields : Json.fieldImages [("themeMode", s.theme), ("safeMode", .bool s.safeMode),
      ("scriptDisabledHosts", .arr (s.pausedHosts.map .str))] = [("themeMode", s.theme.image),
      ("safeMode", .bool s.safeMode), ("scriptDisabledHosts", .arr (s.pausedHosts.map .str))] := by
    simp only [Json.fieldImages, Json.image, hosts]
  rw [toJson, Json.image, fields, Fields.ofPairs_of_nodup (by simp)]
  rfl

theorem isStandard_image_toJson (s : Settings) : s.toJson.image.isStandard = s.theme.image.isStandard := by
  have hosts : (Json.arr (s.pausedHosts.map Json.str)).isStandard = true := (Json.isKept_texts s.pausedHosts).standard
  rw [image_toJson]
  simp [toJson, Json.isStandard, Json.fieldsStandard] at hosts ⊢
  exact fun _ => hosts

theorem reread_of_isKept {s : Settings} (h : s.theme.IsKept) : s.reread = s.normal := by
  rw [reread, (isKept_normal h).image]
  exact normal_normal s

end Settings

/-! ## Records -/

namespace RunRecord

/-- A record with nothing of others in it. -/
structure IsOwn (r : RunRecord) : Prop where
  extra : r.extra = []
  time : r.lastRunTime.IsKept
  error : r.lastError.IsKept

/-- Such a record as stored data. -/
def toJson (r : RunRecord) : Json := .obj [("lastRunTime", r.lastRunTime), ("lastError", r.lastError)]

theorem isOwn_empty : IsOwn {} := ⟨rfl, Json.isKept_null, Json.isKept_null⟩

theorem IsOwn.afterRun {r : RunRecord} (h : r.IsOwn) {now : Json} (hnow : now.IsKept) (ok : Bool) (error : Json) :
    (r.afterRun now ok error).IsOwn := by
  refine ⟨h.extra, hnow, ?_⟩
  rw [RunRecord.afterRun]
  cases ok with
  | true => exact Json.isKept_null
  | false => exact Json.isKept_str _

theorem IsOwn.isKept {r : RunRecord} (h : r.IsOwn) : r.toJson.IsKept := by
  refine .obj ?_ (by simp)
  simp only [List.forall_mem_cons]
  exact ⟨h.time, h.error, List.forall_mem_nil _⟩

theorem ofJson_toJson {r : RunRecord} (h : r.IsOwn) : ofJson r.toJson = .ok r := by
  obtain ⟨time, error, extra⟩ := r
  obtain rfl : extra = [] := h.extra
  simp [ofJson, toJson, Entries.ofJson, Entries.named?, Entries.without, Entries.sameKey, Json.truthy, Except.map]

theorem IsOwn.recordText {r : RunRecord} (h : r.IsOwn) : Catalog.Database.recordText r = .ok r.toJson.text := by
  obtain ⟨time, error, extra⟩ := r
  obtain rfl : extra = [] := h.extra
  have hentries : Entries.toDatum (toEntries ⟨time, error, []⟩) = Datum.ofJson (toJson ⟨time, error, []⟩) := by
    simp [toEntries, Entries.set, Entries.sameKey, Entries.toDatum, toJson, Datum.ofJson, Datum.ofFields]
  rw [Catalog.Database.recordText, hentries, Datum.toJson_ofJson h.isKept.writable]

end RunRecord

/-! ## Stored text -/

namespace Json.IsKept

open Catalog.Database

variable {v : Json} (h : v.IsKept)

include h

theorem load : load v.text = .ok v := by
  rw [load_text h.writable, h.image]

theorem isStored : isStored v.text = true := by
  rw [isStored_text, h.image, h.standard]

theorem textOf : textOf v = .ok v.text := by
  rw [Catalog.Database.textOf, if_pos (Datum.isWritable_ofJson h.writable)]

end Json.IsKept

end Userscript
