import Userscript.Proofs.Json.Kept

/-!
# Userscript.Proofs.Json.Canonical

What was read from a text is kept by the text that is made of it.

The reader gives fields of different names, and so nothing is lost that would be read again: data whose numbers are
finite is its own image (`Settles`), whatever text it was read from (`settles_of_readValue`). With the limit of digits
it is kept as a whole (`isKept_of_load`).

An integer beyond the limit is the one thing that a database takes and cannot give back (`load_long`).
-/

namespace Userscript

namespace Json

/-! ## Data that is its own image -/

/-- Data that is its own image if its numbers are finite. -/
def Settles (v : Json) : Prop := v.isStandard = true → v.image = v

theorem settles_num (x : Binary64) : Settles (.num x) := fun finite => (isKept_num finite).image

theorem settles_arr {items : List Json} (h : ∀ v ∈ items, v.Settles) : Settles (.arr items) := by
  intro finite
  replace finite : itemsStandard items = true := finite
  have images : itemImages items = items := by
    induction items with
    | nil => rfl
    | cons v rest ih =>
      rw [itemsStandard, Bool.and_eq_true] at finite
      rw [List.forall_mem_cons] at h
      rw [itemImages, h.1 finite.1, ih h.2 finite.2]
  rw [image, images]

theorem settles_obj {fields : Fields Json} (h : ∀ f ∈ fields, f.2.Settles) (names : (fields.map (·.1)).Nodup) :
    Settles (.obj fields) := by
  intro finite
  replace finite : fieldsStandard fields = true := finite
  have images : fieldImages fields = fields := by
    clear names
    induction fields with
    | nil => rfl
    | cons f rest ih =>
      obtain ⟨k, v⟩ := f
      rw [fieldsStandard, Bool.and_eq_true] at finite
      rw [List.forall_mem_cons] at h
      rw [fieldImages, h.1 finite.1, ih h.2 finite.2]
  rw [image, images, Fields.ofPairs_of_nodup names]

theorem names_fieldImages (fields : List (String × Json)) : (fieldImages fields).map (·.1) = fields.map (·.1) := by
  induction fields with
  | nil => rfl
  | cons f rest ih =>
    obtain ⟨k, v⟩ := f
    rw [fieldImages, List.map_cons, List.map_cons, ih]

/-- The fields of an object that is kept differ in their names, and are kept. -/
theorem IsKept.fields {fields : Fields Json} (h : IsKept (.obj fields)) :
    (fields.map (·.1)).Nodup ∧ ∀ f ∈ fields, f.2.IsKept := by
  have image : Fields.ofPairs (fieldImages fields) = fields := obj.inj h.image
  have names : (fields.map (·.1)).Nodup := image ▸ Fields.nodup_ofPairs _
  rw [Fields.ofPairs_of_nodup (names_fieldImages fields ▸ names)] at image
  have own : ∀ f ∈ fields, f.2.image = f.2 := by
    clear names h
    induction fields with
    | nil => exact List.forall_mem_nil _
    | cons f rest ih =>
      obtain ⟨k, v⟩ := f
      rw [fieldImages, List.cons.injEq, Prod.mk.injEq] at image
      exact List.forall_mem_cons.2 ⟨image.1.2, ih image.2⟩
  exact ⟨names, fun f hf => ⟨fieldsWritable_iff.1 h.writable f hf, fieldsStandard_iff.1 h.standard f hf, own f hf⟩⟩

/-- So is the value of a field, if there is one of the name. -/
theorem IsKept.field {fields : Fields Json} (h : IsKept (.obj fields)) (name : String) :
    (Json.field name fields).IsKept := by
  obtain ⟨names, values⟩ := h.fields
  rw [Json.field]
  cases found : Fields.get? name fields with
  | none => exact isKept_null
  | some v => exact values _ ((Fields.get?_eq_some_iff names).1 found)

/-! ## What was read -/

theorem settles_of_readWord? {cs rest : List Char} {v : Json} (h : readWord? cs = some (v, rest)) : v.Settles := by
  unfold readWord? at h
  simp only [Option.orElse_eq_some, Option.map_eq_some_iff, Prod.mk.injEq] at h
  have word (w : Json) (own : w.image = w) (same : w = v) : v.Settles := same ▸ fun _ => own
  grind [settles_num, image]

theorem settles_of_numberOf {limit negative : Bool} {whole fraction : List Nat} {exponent : Option Int} {v : Json}
    (h : numberOf limit negative whole fraction exponent = .ok v) : v.Settles := by
  unfold numberOf at h
  split at h
  · split at h
    · cases h
    · cases h
      exact fun _ => rfl
  · cases h
    exact settles_num _

theorem settles_of_readNumber? {limit : Bool} {cs rest : List Char} {v : Json}
    (h : readNumber? limit cs = some (.ok (v, rest))) : v.Settles := by
  unfold readNumber? at h
  dsimp only at h
  split at h
  · cases h
  · obtain ⟨w, number, pair⟩ := map_eq_ok (Option.some.inj h)
    obtain ⟨rfl, -⟩ := Prod.mk.inj pair
    exact settles_of_numberOf number

variable {limit : Bool}

mutual

/-- Whatever the reader takes off the front of a text is its own image. -/
theorem settles_of_readValue : ∀ {fuel : Nat} {cs rest : List Char} {v : Json},
    readValue limit fuel cs = .ok (v, rest) → v.Settles
  | 0, _, _, _, h => by cases h
  | fuel + 1, cs, rest, v, h => by
    unfold readValue at h
    split at h
    · obtain ⟨_, -, h⟩ := bind_eq_ok h
      cases h
      exact fun _ => rfl
    · split at h
      · cases h
        exact fun _ => rfl
      · exact settles_of_readItems (List.forall_mem_nil _) h
    · split at h
      · cases h
        exact fun _ => rfl
      · exact settles_of_readFields (List.forall_mem_nil _) h
    · split at h
      · next word =>
        obtain rfl := Except.ok.inj h
        exact settles_of_readWord? word
      · cases number : readNumber? limit cs with
        | none =>
          rw [number] at h
          cases h
        | some r =>
          rw [number] at h
          obtain rfl : r = .ok (v, rest) := h
          exact settles_of_readNumber? number

theorem settles_of_readItems : ∀ {fuel : Nat} {items : List Json} {cs rest : List Char} {v : Json},
    (∀ w ∈ items, w.Settles) → readItems limit fuel items cs = .ok (v, rest) → v.Settles
  | 0, _, _, _, _, _, h => by cases h
  | fuel + 1, items, cs, rest, v, before, h => by
    unfold readItems at h
    split at h
    · cases h
    · next w _ value =>
      have all : ∀ x ∈ w :: items, x.Settles := List.forall_mem_cons.2 ⟨settles_of_readValue value, before⟩
      split at h
      · cases h
        exact settles_arr fun x hx => all x (List.mem_reverse.1 hx)
      · exact settles_of_readItems all h
      · cases h

theorem settles_of_readFields : ∀ {fuel : Nat} {pairs : List (String × Json)} {cs rest : List Char} {v : Json},
    (∀ f ∈ pairs, f.2.Settles) → readFields limit fuel pairs cs = .ok (v, rest) → v.Settles
  | 0, _, _, _, _, _, h => by cases h
  | fuel + 1, pairs, cs, rest, v, before, h => by
    unfold readFields at h
    split at h
    · split at h
      · cases h
      · next k _ _ =>
        split at h
        · split at h
          · cases h
          · next w _ value =>
            have all : ∀ f ∈ (k, w) :: pairs, f.2.Settles :=
              List.forall_mem_cons.2 ⟨settles_of_readValue value, before⟩
            split at h
            · cases h
              have fields := @forall_mem_ofPairs Settles _ fun f hf => all f (List.mem_reverse.1 hf)
              exact settles_obj fields (Fields.nodup_ofPairs _)
            · exact settles_of_readFields all h
            · cases h
        · cases h
    · cases h

end

theorem settles_of_read {text : String} {v : Json} (h : read limit text = .ok v) : v.Settles := by
  unfold read at h
  dsimp only at h
  split at h
  · cases h
  · split at h
    · cases h
    · next value =>
      split at h
      · obtain rfl := Except.ok.inj h
        exact settles_of_readValue value
      · cases h

/-! ## Integers beyond the limit -/

theorem Numeral.value_ofInt_long {i : Int} (h : ¬IsShort i) :
    (Numeral.ofInt i).value true = .error (.integer (Nat.toDigits 10 i.natAbs).length) := by
  have long : Number.digitLimit < ((Numeral.ofInt i).whole.map digitOf).length := by
    have positive : 0 < Number.digitLimit := Nat.zero_lt_succ _
    rw [List.length_map]
    by_contra short
    rw [IsShort, Nat.pow_eq, ← Nat.length_toDigits_le_iff (by omega) positive] at h
    exact h (Nat.not_lt.1 short)
  have value : (Numeral.ofInt i).value true =
      if true && decide (Number.digitLimit < ((Numeral.ofInt i).whole.map digitOf).length) then
        .error (.integer ((Numeral.ofInt i).whole.map digitOf).length)
      else
        .ok (.int (if decide (i < 0) then -(Number.ofDigits ((Numeral.ofInt i).whole.map digitOf) : Int)
          else Number.ofDigits ((Numeral.ofInt i).whole.map digitOf))) := rfl
  rw [value, if_pos (by rw [Bool.true_and]; exact decide_eq_true long), List.length_map]
  rfl

/-- An object that holds an integer with too many digits is not read under the limit. -/
theorem read_long {i : Int} (name : String) (h : ¬IsShort i) :
    read true (Json.obj [(name, .int i)]).text = .error (.integer (Nat.toDigits 10 i.natAbs).length) := by
  have chars : (Json.obj [(name, .int i)]).text.toList =
      '\x7b' :: '"' :: (escaped name.toList ++ '"' :: ':' :: ' ' :: ((Json.int i).text.toList ++ ['\x7d'])) := by
    simp [text, String.toList_append, toList_fieldsText_one]
  have ends : Ends ['\x7d'] := ends_of_not_digit (by decide)
  have long (fuel : Nat) : readValue true (fuel + 1) ((Json.int i).text.toList ++ ['\x7d']) =
      .error (.integer (Nat.toDigits 10 i.natAbs).length) := by
    rw [text, ← Numeral.chars_ofInt, readValue_chars (Numeral.wellFormed_ofInt i) ends, Numeral.value_ofInt_long h]
    rfl
  have value (fuel : Nat) : readValue true (fuel + 3) (Json.obj [(name, .int i)]).text.toList =
      .error (.integer (Nat.toDigits 10 i.natAbs).length) := by
    have field := readFields_key true (fuel + 1) [] name (.int i) ['\x7d']
    rw [long] at field
    rw [chars, readValue, skipSpace_cons rfl]
    exact field
  obtain ⟨fuel, size⟩ : ∃ fuel, (Json.obj [(name, .int i)]).text.toList.length + 1 = fuel + 3 := by
    rw [chars]
    exact ⟨_, rfl⟩
  have start : skipSpace (Json.obj [(name, .int i)]).text.toList = (Json.obj [(name, .int i)]).text.toList := by
    rw [chars]
    exact skipSpace_cons rfl
  unfold read
  dsimp only
  split
  · next mark =>
    rw [chars] at mark
    exact absurd (List.cons.inj mark).1 (by decide)
  · rw [start, size, value]

end Json

namespace Catalog.Database

/-- What was loaded is kept by the text that is made of it, if its numbers are finite. -/
theorem isKept_of_load {text : String} {v : Json} (h : load text = .ok v) (finite : v.isStandard = true) : v.IsKept := by
  unfold load at h
  split at h
  · next read =>
    cases h
    exact ⟨Json.writable_of_read read, finite, Json.settles_of_read read finite⟩
  · cases h
  · cases h

/-- Text that holds an integer with too many digits is stored, and is not given back. -/
theorem load_long {i : Int} (name : String) (h : ¬Json.IsShort i) :
    isStored (Json.obj [(name, .int i)]).text = true ∧ load (Json.obj [(name, .int i)]).text =
      .error (.badValue (Number.NumeralFault.tooManyDigits (Nat.toDigits 10 i.natAbs).length).message) := by
  rw [isStored_text, load, Json.read_long name h]
  exact ⟨rfl, rfl⟩

end Catalog.Database
end Userscript
