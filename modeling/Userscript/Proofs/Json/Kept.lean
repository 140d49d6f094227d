import Userscript.Catalog.Database
import Userscript.Proofs.Json.Fields
import Userscript.Proofs.Json.Limit
import Userscript.Proofs.Json.Plain

/-!
# Userscript.Proofs.Json.Kept

Data that its JSON text keeps.

It is JSON by the standard, no integer in it has too many digits, and it is its own image. Null, truth values,
short integers, finite numbers and text are kept, and so are lists of kept data (`IsKept.arr`) and objects of kept
data whose fields differ in their names (`IsKept.obj`).

* `isStandard_image`: data whose numbers are finite comes back with finite numbers;
* `isStored_text`, `load_text`: a database stores the text of data that comes back so, and gives back its image.
-/

namespace Userscript

namespace Json

/-- Data that its JSON text keeps. -/
structure IsKept (v : Json) : Prop where
  writable : v.Writable
  standard : v.isStandard = true
  image : v.image = v

theorem isKept_null : IsKept .null := ⟨trivial, rfl, rfl⟩

theorem isKept_bool (b : Bool) : IsKept (.bool b) := ⟨trivial, rfl, rfl⟩

theorem isKept_str (s : String) : IsKept (.str s) := ⟨trivial, rfl, rfl⟩

theorem isKept_int {n : Int} (h : IsShort n) : IsKept (.int n) := ⟨h, rfl, rfl⟩

theorem isKept_num {x : Binary64} (h : x.isFinite = true) : IsKept (.num x) := by
  have hself : reread x = x := by
    unfold Binary64.isFinite at h
    split at h
    · rename_i hshape
      simp [reread, Binary64.isNaN, hshape]
    · cases h
  exact ⟨trivial, h, congrArg Json.num hself⟩

theorem IsKept.arr {items : List Json} (h : ∀ v ∈ items, v.IsKept) : IsKept (.arr items) := by
  have hparts : ItemsWritable items ∧ itemsStandard items = true ∧ itemImages items = items := by
    induction items with
    | nil => exact ⟨trivial, rfl, rfl⟩
    | cons v rest ih =>
      rw [List.forall_mem_cons] at h
      obtain ⟨hv, hrest⟩ := h
      obtain ⟨hw, hs, hi⟩ := ih hrest
      refine ⟨⟨hv.writable, hw⟩, ?_, ?_⟩
      · rw [itemsStandard, hv.standard, hs]
        rfl
      · rw [itemImages, hv.image, hi]
  obtain ⟨hw, hs, hi⟩ := hparts
  exact ⟨hw, hs, by rw [Json.image, hi]⟩

theorem IsKept.obj {fields : Fields Json} (h : ∀ f ∈ fields, f.2.IsKept) (hnames : (fields.map (·.1)).Nodup) :
    IsKept (.obj fields) := by
  have hparts : FieldsWritable fields ∧ fieldsStandard fields = true ∧ fieldImages fields = fields := by
    clear hnames
    induction fields with
    | nil => exact ⟨trivial, rfl, rfl⟩
    | cons f rest ih =>
      obtain ⟨k, v⟩ := f
      rw [List.forall_mem_cons] at h
      obtain ⟨hv, hrest⟩ := h
      obtain ⟨hw, hs, hi⟩ := ih hrest
      refine ⟨⟨hv.writable, hw⟩, ?_, ?_⟩
      · rw [fieldsStandard, hv.standard, hs]
        rfl
      · rw [fieldImages, hv.image, hi]
  obtain ⟨hw, hs, hi⟩ := hparts
  exact ⟨hw, hs, by rw [Json.image, hi, Fields.ofPairs_of_nodup hnames]⟩

theorem isKept_texts (texts : List String) : IsKept (.arr (texts.map .str)) := by
  refine .arr fun v hv => ?_
  obtain ⟨s, -, rfl⟩ := List.mem_map.1 hv
  exact isKept_str s

end Json

namespace Datum

theorem isOk_writeInt {n : Int} (h : Json.IsShort n) : (Number.writeInt n).isOk = true := by
  unfold Number.writeInt
  dsimp only
  rw [if_neg (Nat.not_le.2 h)]
  rfl

mutual

/-- Data of short integers can be written. -/
theorem isWritable_ofJson : ∀ {v : Json}, v.Writable → (ofJson v).isWritable = true
  | .null, _ => rfl
  | .bool _, _ => rfl
  | .int _, h => by
    rw [ofJson, isWritable]
    exact isOk_writeInt h
  | .num _, _ => rfl
  | .str _, _ => rfl
  | .arr _, h => areWritable_ofItems h
  | .obj _, h => entriesAreWritable_ofFields h

theorem areWritable_ofItems : ∀ {items : List Json}, Json.ItemsWritable items → areWritable (ofItems items) = true
  | [], _ => rfl
  | _ :: _, h => by
    rw [ofItems, areWritable, isWritable_ofJson h.1, areWritable_ofItems h.2]
    rfl

theorem entriesAreWritable_ofFields : ∀ {fields : List (String × Json)}, Json.FieldsWritable fields →
    entriesAreWritable (ofFields fields) = true
  | [], _ => rfl
  | (_, _) :: _, h => by
    rw [ofFields, entriesAreWritable, isWritable_ofJson h.1, entriesAreWritable_ofFields h.2]
    rfl

end

mutual

/-- Data that scripts see is the same when it is written again. -/
theorem toJson_ofJson : ∀ {v : Json}, v.Writable → (ofJson v).toJson = .ok v
  | .null, _ => rfl
  | .bool _, _ => rfl
  | .int _, h => by
    rw [ofJson, toJson, writable_of_isShort h]
    rfl
  | .num _, _ => rfl
  | .str _, _ => rfl
  | .arr _, h => by
    rw [ofJson, toJson, itemsToJson_ofItems h]
    rfl
  | .obj _, h => by
    rw [ofJson, toJson, entriesToJson_ofFields h]
    rfl

theorem itemsToJson_ofItems : ∀ {items : List Json}, Json.ItemsWritable items →
    itemsToJson (ofItems items) = .ok items
  | [], _ => rfl
  | _ :: _, h => by
    rw [ofItems, itemsToJson, toJson_ofJson h.1, itemsToJson_ofItems h.2]
    rfl

theorem entriesToJson_ofFields : ∀ {fields : List (String × Json)}, Json.FieldsWritable fields →
    entriesToJson (ofFields fields) = .ok fields
  | [], _ => rfl
  | (_, _) :: _, h => by
    rw [ofFields, entriesToJson, keyText, toJson_ofJson h.1, entriesToJson_ofFields h.2]
    rfl

end

end Datum

/-! ## What a database keeps -/

namespace Json

theorem fieldsStandard_iff {fields : List (String × Json)} :
    fieldsStandard fields = true ↔ ∀ f ∈ fields, f.2.isStandard = true := by
  induction fields with
  | nil => simp [fieldsStandard]
  | cons f rest ih =>
    obtain ⟨k, v⟩ := f
    rw [fieldsStandard, Bool.and_eq_true, ih, List.forall_mem_cons]

mutual

/-- Finite numbers stay finite. -/
theorem isStandard_image : ∀ {v : Json}, v.isStandard = true → v.image.isStandard = true
  | .null, _ => rfl
  | .bool _, _ => rfl
  | .int _, _ => rfl
  | .str _, _ => rfl
  | .num x, h => by
    rw [(isKept_num h).image]
    exact h
  | .arr items, h => itemsStandard_images h
  | .obj fields, h => by
    have images : ∀ f ∈ fieldImages fields, f.2.isStandard = true := fieldsStandard_iff.mp (fieldsStandard_images h)
    exact fieldsStandard_iff.mpr (@forall_mem_ofPairs (·.isStandard = true) _ images)

theorem itemsStandard_images : ∀ {items : List Json}, itemsStandard items = true →
    itemsStandard (itemImages items) = true
  | [], _ => rfl
  | v :: rest, h => by
    rw [itemsStandard, Bool.and_eq_true] at h
    rw [itemImages, itemsStandard, isStandard_image h.1, itemsStandard_images h.2]
    rfl

theorem fieldsStandard_images : ∀ {fields : List (String × Json)}, fieldsStandard fields = true →
    fieldsStandard (fieldImages fields) = true
  | [], _ => rfl
  | (_, v) :: rest, h => by
    rw [fieldsStandard, Bool.and_eq_true] at h
    rw [fieldImages, fieldsStandard, isStandard_image h.1, fieldsStandard_images h.2]
    rfl

end

end Json

namespace Catalog.Database

variable {v : Json}

theorem isStored_text : isStored v.text = v.image.isStandard := by
  have read : Json.read false v.text = .ok v.image := Json.read_text nofun
  rw [isStored, read]

theorem load_text (h : v.Writable) : load v.text = .ok v.image := by
  rw [load, Json.read_text fun _ => h]

end Catalog.Database

end Userscript
