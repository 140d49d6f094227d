import Userscript.Datum
import Userscript.Proofs.Json.RoundTrip
import Userscript.Proofs.Work

/-!
# Userscript.Proofs.Json.Plain

What comes back of a script's value that is written as JSON and read again.

Whatever has a JSON form can be read back (`jsonImage?_of_toJson`). Plain values, of null, truth values, integers
and text in lists, tuples and dictionaries, come back as they were, but that tuples are lists, and keys the texts
that name fields (`jsonImage?_of_plain`).
-/

namespace Userscript

namespace Fields

variable {α β : Type}

theorem set_map (f : α → β) (name : String) (value : α) (fields : Fields α) :
    set name (f value) (fields.map fun p => (p.1, f p.2)) = (set name value fields).map fun p => (p.1, f p.2) := by
  induction fields with
  | nil => rfl
  | cons p rest ih =>
    obtain ⟨k, v⟩ := p
    by_cases hk : k = name
    · simp [set, hk]
    · simp only [set, List.map_cons, hk, if_false, ih]

theorem ofPairs_map (f : α → β) (pairs : List (String × α)) :
    ofPairs (pairs.map fun p => (p.1, f p.2)) = (ofPairs pairs).map fun p => (p.1, f p.2) := by
  have hfold (fields : Fields α) :
      (pairs.map fun p => (p.1, f p.2)).foldl (fun fields p => set p.1 p.2 fields)
          (fields.map fun p => (p.1, f p.2)) =
        (pairs.foldl (fun fields p => set p.1 p.2 fields) fields).map fun p => (p.1, f p.2) := by
    induction pairs generalizing fields with
    | nil => rfl
    | cons p rest ih =>
      simp only [List.map_cons, List.foldl_cons, set_map, ih]
  exact hfold []

end Fields

namespace Datum

/-! ## What has a JSON form can be read back -/

theorem writable_eq_ok {n m : Int} (h : writable n = .ok m) :
    m = n ∧ Json.IsShort n := by
  unfold writable Number.writeInt at h
  dsimp only at h
  split at h
  · rename_i hok
    split at hok
    · cases hok
    · cases h
      exact ⟨rfl, Nat.not_le.1 ‹_›⟩
  · cases h

theorem writable_of_isShort {n : Int} (h : Json.IsShort n) : writable n = .ok n := by
  unfold writable Number.writeInt
  dsimp only
  rw [if_neg (Nat.not_le.2 h)]

mutual

theorem writable_of_toJson : ∀ v : Datum, ∀ j, v.toJson = .ok j → j.Writable
  | .none => fun j h => by
    cases h
    exact True.intro
  | .bool _ => fun j h => by
    cases h
    exact True.intro
  | .int n => fun j h => by
    rw [toJson] at h
    obtain ⟨m, hm, rfl⟩ := map_eq_ok h
    obtain ⟨rfl, hshort⟩ := writable_eq_ok hm
    exact hshort
  | .num _ => fun j h => by
    cases h
    exact True.intro
  | .str _ => fun j h => by
    cases h
    exact True.intro
  | .list items => fun j h => by
    obtain ⟨js, hjs, rfl⟩ := map_eq_ok h
    exact writable_of_itemsToJson items js hjs
  | .tuple items => fun j h => by
    obtain ⟨js, hjs, rfl⟩ := map_eq_ok h
    exact writable_of_itemsToJson items js hjs
  | .dict entries => fun j h => by
    obtain ⟨js, hjs, rfl⟩ := map_eq_ok h
    exact writable_of_entriesToJson entries js hjs
  | .bytes _ | .again _ | .style .. | .fault .. | .other .. => fun j h => by cases h

theorem writable_of_itemsToJson : ∀ items : List Datum, ∀ js, itemsToJson items = .ok js →
    Json.ItemsWritable js
  | [] => fun js h => by
    cases h
    exact True.intro
  | v :: rest => fun js h => by
    rw [itemsToJson] at h
    split at h
    · cases h
    · rename_i j hj
      obtain ⟨js, hjs, rfl⟩ := map_eq_ok h
      exact ⟨writable_of_toJson v j hj, writable_of_itemsToJson rest js hjs⟩

theorem writable_of_entriesToJson : ∀ entries : List (Datum × Datum), ∀ js,
    entriesToJson entries = .ok js → Json.FieldsWritable js
  | [] => fun js h => by
    cases h
    exact True.intro
  | (k, v) :: rest => fun js h => by
    rw [entriesToJson] at h
    split at h
    · cases h
    split at h
    · cases h
    · rename_i j hj
      obtain ⟨js, hjs, rfl⟩ := map_eq_ok h
      exact ⟨writable_of_toJson v j hj, writable_of_entriesToJson rest js hjs⟩

end

/-- What is read from the JSON text of a value, if it has one. -/
def jsonImage? (v : Datum) : Option Datum :=
  match v.toJson with
  | .error _ => Option.none
  | .ok j => (Json.read true j.text).toOption.map ofJson

theorem jsonImage?_of_toJson {v : Datum} {j : Json} (h : v.toJson = .ok j) :
    v.jsonImage? = some (ofJson j.image) := by
  rw [jsonImage?, h]
  dsimp only
  rw [Json.read_text fun _ => writable_of_toJson v j h]
  rfl

/-! ## Plain values -/

mutual

/-- Null, truth values, integers and text, in lists, tuples and dictionaries; integers have few enough digits to
be written. -/
def IsPlain : Datum → Prop
  | .none | .bool _ | .str _ => True
  | .int n => Json.IsShort n
  | .list items | .tuple items => ArePlain items
  | .dict entries => EntriesPlain entries
  | _ => False

def ArePlain : List Datum → Prop
  | [] => True
  | v :: rest => IsPlain v ∧ ArePlain rest

def EntriesPlain : List (Datum × Datum) → Prop
  | [] => True
  | (k, v) :: rest => IsPlainKey k ∧ IsPlain v ∧ EntriesPlain rest

/-- Null, a truth value, an integer or text. -/
def IsPlainKey : Datum → Prop
  | .none | .bool _ | .str _ => True
  | .int n => Json.IsShort n
  | _ => False

end

/-- The text that names the field of a plain key. -/
def plainName : Datum → String
  | .none => "null"
  | .bool true => "true"
  | .bool false => "false"
  | .int n => toString n
  | .str s => s
  | _ => ""

mutual

/-- A plain value with tuples as lists and the texts of keys as keys. Of two keys with one text the later one
counts, at the place of the first. -/
def plainImage : Datum → Datum
  | .list items | .tuple items => .list (plainImages items)
  | .dict entries => .dict ((Fields.ofPairs (plainFields entries)).map fun p => (.str p.1, p.2))
  | v => v

def plainImages : List Datum → List Datum
  | [] => []
  | v :: rest => plainImage v :: plainImages rest

/-- The images of plain entries, by the texts of their keys. -/
def plainFields : List (Datum × Datum) → List (String × Datum)
  | [] => []
  | (k, v) :: rest => (plainName k, plainImage v) :: plainFields rest

end

theorem keyText_of_plain {k : Datum} (h : IsPlainKey k) : keyText k = .ok (plainName k) := by
  cases k with
  | none => rfl
  | bool b => cases b <;> rfl
  | int n => rw [keyText, writable_of_isShort h]; rfl
  | str s => rfl
  | _ => cases h

theorem ofFields_eq_map (fields : List (String × Json)) :
    ofFields fields = fields.map fun p => (.str p.1, ofJson p.2) := by
  induction fields with
  | nil => rfl
  | cons p rest ih => rw [ofFields, ih, List.map_cons]

mutual

theorem toJson_of_plain : ∀ {v : Datum}, IsPlain v → ∃ j, v.toJson = .ok j ∧ ofJson j.image = plainImage v
  | .none, _ => ⟨.null, rfl, rfl⟩
  | .bool b, _ => ⟨.bool b, rfl, rfl⟩
  | .int n, h => ⟨.int n, by rw [toJson, writable_of_isShort h]; rfl, rfl⟩
  | .str s, _ => ⟨.str s, rfl, rfl⟩
  | .list items, h => by
    obtain ⟨js, hjs, himage⟩ := itemsToJson_of_plain h
    exact ⟨.arr js, by rw [toJson, hjs]; rfl, by rw [Json.image, ofJson, himage, plainImage]⟩
  | .tuple items, h => by
    obtain ⟨js, hjs, himage⟩ := itemsToJson_of_plain h
    exact ⟨.arr js, by rw [toJson, hjs]; rfl, by rw [Json.image, ofJson, himage, plainImage]⟩
  | .dict entries, h => by
    obtain ⟨js, hjs, himage⟩ := entriesToJson_of_plain h
    refine ⟨.obj js, by rw [toJson, hjs]; rfl, ?_⟩
    rw [Json.image, ofJson, plainImage, ← himage, Fields.ofPairs_map, ofFields_eq_map, List.map_map]
    rfl
  | .num _, h | .bytes _, h | .again _, h | .style .., h | .fault .., h | .other .., h => by cases h

theorem itemsToJson_of_plain : ∀ {items : List Datum}, ArePlain items →
    ∃ js, itemsToJson items = .ok js ∧ ofItems (Json.itemImages js) = plainImages items
  | [], _ => ⟨[], rfl, rfl⟩
  | v :: rest, h => by
    obtain ⟨j, hj, hv⟩ := toJson_of_plain h.1
    obtain ⟨js, hjs, hrest⟩ := itemsToJson_of_plain h.2
    refine ⟨j :: js, ?_, ?_⟩
    · rw [itemsToJson, hj, hjs]
      rfl
    · rw [Json.itemImages, ofItems, hv, hrest, plainImages]

theorem entriesToJson_of_plain : ∀ {entries : List (Datum × Datum)}, EntriesPlain entries →
    ∃ js, entriesToJson entries = .ok js ∧
      ((Json.fieldImages js).map fun p => (p.1, ofJson p.2)) = plainFields entries
  | [], _ => ⟨[], rfl, rfl⟩
  | (k, v) :: rest, h => by
    obtain ⟨j, hj, hv⟩ := toJson_of_plain h.2.1
    obtain ⟨js, hjs, hrest⟩ := entriesToJson_of_plain h.2.2
    refine ⟨(plainName k, j) :: js, ?_, ?_⟩
    · rw [entriesToJson, keyText_of_plain h.1, hj, hjs]
      rfl
    · rw [Json.fieldImages, List.map_cons, hv, hrest, plainFields]

end

theorem jsonImage?_of_plain {v : Datum} (h : v.IsPlain) : v.jsonImage? = some v.plainImage := by
  obtain ⟨j, hj, himage⟩ := toJson_of_plain h
  rw [jsonImage?_of_toJson hj, himage]

end Datum

end Userscript
