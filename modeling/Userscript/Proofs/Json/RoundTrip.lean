import Userscript.Proofs.Json.Decimal
import Userscript.Proofs.Json.Quoted

/-!
# Userscript.Proofs.Json.RoundTrip

Data read back from its JSON text.

What comes back is the `image` of the data: numbers are what their text is read as, and of the fields of one
name the last one counts.

* `readValue_text`: the text of a value is taken off the front, whatever follows that cannot go on with it;
* `read_text`: the whole text is read as the image.
-/

namespace Userscript.Json

/-! ## Images -/

mutual

/-- What comes back of data that is written and read. -/
def image : Json → Json
  | .num x => .num (reread x)
  | .arr items => .arr (itemImages items)
  | .obj fields => .obj (Fields.ofPairs (fieldImages fields))
  | v => v

def itemImages : List Json → List Json
  | [] => []
  | v :: rest => image v :: itemImages rest

/-- The images of the values of fields. -/
def fieldImages : List (String × Json) → List (String × Json)
  | [] => []
  | (k, v) :: rest => (k, image v) :: fieldImages rest

end

mutual

/-- Every integer has few enough digits to be written and read. -/
def Writable : Json → Prop
  | .int n => IsShort n
  | .arr items => ItemsWritable items
  | .obj fields => FieldsWritable fields
  | _ => True

/-- Every integer in the values has few enough digits. -/
def ItemsWritable : List Json → Prop
  | [] => True
  | v :: rest => Writable v ∧ ItemsWritable rest

/-- Every integer in the fields has few enough digits. -/
def FieldsWritable : List (String × Json) → Prop
  | [] => True
  | (_, v) :: rest => Writable v ∧ FieldsWritable rest

end

/-! ## The front of a text -/

/-- What the text of a value begins with. -/
def IsStart (c : Char) : Prop := c.isDigit = true ∨ c ∈ ['"', '[', '\x7b', '-', 'n', 't', 'f', 'N', 'I']

theorem IsStart.ne {c d : Char} (h : IsStart c) (hd : d.isDigit = false)
    (hother : d ∉ ['"', '[', '\x7b', '-', 'n', 't', 'f', 'N', 'I']) : c ≠ d := by
  rintro rfl
  rcases h with h | h
  · rw [hd] at h
    cases h
  · exact hother h

theorem IsStart.not_space {c : Char} (h : IsStart c) : isSpace c = false := by
  simp [isSpace, h.ne (d := ' ') rfl (by decide), h.ne (d := '\t') rfl (by decide),
    h.ne (d := '\n') rfl (by decide), h.ne (d := '\r') rfl (by decide)]

theorem isStart_of_chars {n : Numeral} (h : n.WellFormed) : ∃ c cs, n.chars = c :: cs ∧ IsStart c := by
  obtain ⟨c, cs, hchars, hc | ⟨rfl, -⟩⟩ := chars_eq_cons h
  · exact ⟨c, cs, hchars, .inl hc⟩
  · exact ⟨'-', cs, hchars, .inr (by decide)⟩

theorem text_start (v : Json) : ∃ c cs, v.text.toList = c :: cs ∧ IsStart c := by
  cases v with
  | null => exact ⟨'n', _, rfl, .inr (by decide)⟩
  | bool b =>
    cases b
    · exact ⟨'f', _, rfl, .inr (by decide)⟩
    · exact ⟨'t', _, rfl, .inr (by decide)⟩
  | int n =>
    rw [text, ← Numeral.chars_ofInt]
    exact isStart_of_chars (Numeral.wellFormed_ofInt n)
  | num x =>
    rw [text]
    cases hshape : x.shape with
    | nan => exact ⟨'N', ['a', 'N'], by simp [numberText, hshape], .inr (by decide)⟩
    | infinite s =>
      cases s
      · exact ⟨'I', _, by simp [numberText, hshape]; rfl, .inr (by decide)⟩
      · exact ⟨'-', _, by simp [numberText, hshape]; rfl, .inr (by decide)⟩
    | finite s m e =>
      obtain ⟨n, hwell, hchars, -⟩ := exists_numeral hshape
      rw [← hchars]
      exact isStart_of_chars hwell
  | str s =>
    rw [text, toList_quoted]
    exact ⟨'"', _, rfl, .inr (by decide)⟩
  | arr items =>
    rw [text, String.toList_append, String.toList_append]
    exact ⟨'[', _, rfl, .inr (by decide)⟩
  | obj fields =>
    rw [text, String.toList_append, String.toList_append]
    exact ⟨'\x7b', _, rfl, .inr (by decide)⟩

theorem skipSpace_cons {c : Char} {cs : List Char} (hc : isSpace c = false) :
    skipSpace (c :: cs) = c :: cs := by
  simp [skipSpace, hc]

theorem skipSpace_text (v : Json) (rest : List Char) :
    skipSpace (v.text.toList ++ rest) = v.text.toList ++ rest := by
  obtain ⟨c, cs, htext, hc⟩ := text_start v
  rw [htext, List.cons_append, skipSpace_cons hc.not_space]

theorem ends_of_not_digit {c : Char} {cs : List Char}
    (h : c.isDigit = false ∧ c ≠ '.' ∧ c ≠ 'e' ∧ c ≠ 'E') : Ends (c :: cs) := by
  intro d hd
  obtain rfl : c = d := by simpa using hd
  exact h

theorem toList_itemsText_cons (v w : Json) (rest : List Json) :
    (itemsText (v :: w :: rest)).toList = v.text.toList ++ ',' :: ' ' :: (itemsText (w :: rest)).toList := by
  rw [itemsText.eq_3 _ _ (by simp), String.toList_append, String.toList_append, List.append_assoc]
  rfl

theorem toList_fieldsText_one (k : String) (v : Json) :
    (fieldsText [(k, v)]).toList = '"' :: (escaped k.toList ++ '"' :: ':' :: ' ' :: v.text.toList) := by
  rw [fieldsText, String.toList_append, String.toList_append, toList_quoted]
  simp

theorem toList_fieldsText_cons (k : String) (v : Json) (field : String × Json)
    (rest : List (String × Json)) :
    (fieldsText ((k, v) :: field :: rest)).toList =
      '"' :: (escaped k.toList ++ '"' :: ':' :: ' ' :: (v.text.toList ++
        ',' :: ' ' :: (fieldsText (field :: rest)).toList)) := by
  rw [fieldsText.eq_3 _ _ _ (by simp)]
  simp [String.toList_append, toList_quoted]

theorem items_start (v : Json) (vs : List Json) :
    ∃ c cs, (itemsText (v :: vs)).toList = c :: cs ∧ IsStart c := by
  obtain ⟨c, cs, htext, hc⟩ := text_start v
  cases vs with
  | nil => exact ⟨c, cs, htext, hc⟩
  | cons w vs => exact ⟨c, _, by rw [toList_itemsText_cons, htext]; rfl, hc⟩

theorem fields_start (field : String × Json) (fields : List (String × Json)) :
    ∃ cs, (fieldsText (field :: fields)).toList = '"' :: cs := by
  cases fields with
  | nil => exact ⟨_, toList_fieldsText_one field.1 field.2⟩
  | cons next fields => exact ⟨_, toList_fieldsText_cons field.1 field.2 next fields⟩

theorem skipSpace_items (v : Json) (vs : List Json) (rest : List Char) :
    skipSpace (' ' :: ((itemsText (v :: vs)).toList ++ rest)) = (itemsText (v :: vs)).toList ++ rest := by
  obtain ⟨c, cs, htext, hc⟩ := items_start v vs
  rw [htext]
  exact skipSpace_cons hc.not_space

theorem skipSpace_fields (field : String × Json) (fields : List (String × Json)) (rest : List Char) :
    skipSpace (' ' :: ((fieldsText (field :: fields)).toList ++ rest)) =
      (fieldsText (field :: fields)).toList ++ rest := by
  obtain ⟨cs, htext⟩ := fields_start field fields
  rw [htext]
  exact skipSpace_cons (c := '"') rfl

/-! ## Values -/

theorem exists_fuel {v : Json} {fuel : Nat} (h : v.text.toList.length ≤ fuel) : ∃ n, fuel = n + 1 := by
  obtain ⟨c, cs, htext, -⟩ := text_start v
  rw [htext, List.length_cons] at h
  exact Nat.exists_eq_succ_of_ne_zero (by omega)

/-- Reads a key and what stands before its value. -/
theorem readFields_key (limit : Bool) (fuel : Nat) (pairs : List (String × Json)) (k : String) (v : Json)
    (rest : List Char) :
    readFields limit (fuel + 1) pairs
        ('"' :: (escaped k.toList ++ '"' :: ':' :: ' ' :: (v.text.toList ++ rest))) =
      match readValue limit fuel (v.text.toList ++ rest) with
      | .error e => .error e
      | .ok (v, rest) =>
        match skipSpace rest with
        | '\x7d' :: after => .ok (.obj (Fields.ofPairs ((k, v) :: pairs).reverse), after)
        | ',' :: more => readFields limit fuel ((k, v) :: pairs) (skipSpace more)
        | other => .error (.at other.length) := by
  have hblank : skipSpace (' ' :: (v.text.toList ++ rest)) = v.text.toList ++ rest := skipSpace_text v rest
  rw [readFields, readString_quoted]
  dsimp only
  rw [skipSpace_cons (c := ':') rfl]
  simp only
  generalize skipSpace (' ' :: (v.text.toList ++ rest)) = after at hblank ⊢
  subst hblank
  rfl

mutual

/-- The text of a value is taken off the front, whatever follows that cannot go on with it. -/
theorem readValue_text {limit : Bool} : ∀ (v : Json) {fuel : Nat} {rest : List Char}, Ends rest →
    (limit = true → v.Writable) → v.text.toList.length ≤ fuel →
      readValue limit fuel (v.text.toList ++ rest) = .ok (v.image, rest)
  | .null, fuel, rest, _, _, hfuel => by
    obtain ⟨n, rfl⟩ := exists_fuel hfuel
    simp [text, readValue, readWord?, after?, image]
  | .bool b, fuel, rest, _, _, hfuel => by
    obtain ⟨n, rfl⟩ := exists_fuel hfuel
    cases b <;> simp [text, readValue, readWord?, after?, image]
  | .int i, fuel, rest, hrest, hwritable, hfuel => by
    obtain ⟨n, rfl⟩ := exists_fuel hfuel
    rw [text, ← Numeral.chars_ofInt, readValue_chars (Numeral.wellFormed_ofInt i) hrest,
      Numeral.value_ofInt hwritable]
    rfl
  | .num x, fuel, rest, hrest, _, hfuel => by
    obtain ⟨n, rfl⟩ := exists_fuel hfuel
    exact readValue_numberText x limit n hrest
  | .str s, fuel, rest, _, _, hfuel => by
    obtain ⟨n, rfl⟩ := exists_fuel hfuel
    rw [text, toList_quoted, List.cons_append, List.append_assoc, readValue, List.singleton_append,
      readString_quoted]
    rfl
  | .arr items, fuel, rest, _, hwritable, hfuel => by
    obtain ⟨n, rfl⟩ := exists_fuel hfuel
    have htext : (text (.arr items)).toList = '[' :: ((itemsText items).toList ++ [']']) := by
      simp [text, String.toList_append]
    rw [htext, List.length_cons, List.length_append, List.length_singleton] at hfuel
    rw [htext, List.cons_append, List.append_assoc, List.singleton_append, readValue]
    cases items with
    | nil => rfl
    | cons v vs =>
      have hread := readItems_text (v :: vs) (List.cons_ne_nil _ _) hwritable (by omega) (n := n) [] rest
      -- The reader looks for a closing bracket first; no item begins with one.
      obtain ⟨c, cs, hcons, hc⟩ := items_start v vs
      have hclose : c ≠ ']' := hc.ne rfl (by decide)
      rw [hcons, List.cons_append] at hread ⊢
      rw [skipSpace_cons hc.not_space]
      split
      · rename_i heq
        exact absurd (List.cons.inj heq).1 hclose
      · exact hread
  | .obj fields, fuel, rest, _, hwritable, hfuel => by
    obtain ⟨n, rfl⟩ := exists_fuel hfuel
    have htext : (text (.obj fields)).toList = '\x7b' :: ((fieldsText fields).toList ++ ['\x7d']) := by
      simp [text, String.toList_append]
    rw [htext, List.length_cons, List.length_append, List.length_singleton] at hfuel
    rw [htext, List.cons_append, List.append_assoc, List.singleton_append, readValue]
    cases fields with
    | nil => rfl
    | cons field fields =>
      have hread := readFields_text (field :: fields) (List.cons_ne_nil _ _) hwritable (by omega) (n := n) []
        rest
      obtain ⟨cs, hcons⟩ := fields_start field fields
      rw [hcons, List.cons_append] at hread ⊢
      rw [skipSpace_cons (c := '"') rfl]
      exact hread

theorem readItems_text {limit : Bool} : ∀ vs : List Json, vs ≠ [] → (limit = true → ItemsWritable vs) →
    ∀ {n : Nat}, (itemsText vs).toList.length < n → ∀ (items : List Json) (rest : List Char),
      readItems limit n items ((itemsText vs).toList ++ ']' :: rest) =
        .ok (.arr (items.reverse ++ itemImages vs), rest)
  | [], hne, _, _, _, _, _ => absurd rfl hne
  | [v], _, hwritable, n, hn, items, rest => by
    obtain ⟨n, rfl⟩ := Nat.exists_eq_succ_of_ne_zero (Nat.ne_zero_of_lt hn)
    have hends : Ends (']' :: rest) := ends_of_not_digit (by decide)
    have hv := readValue_text v hends (fun h => (hwritable h).1) (Nat.le_of_lt_succ hn)
    rw [itemsText, readItems, hv]
    simp [skipSpace_cons, isSpace, itemImages]
  | v :: w :: vs, _, hwritable, n, hn, items, rest => by
    obtain ⟨n, rfl⟩ := Nat.exists_eq_succ_of_ne_zero (Nat.ne_zero_of_lt hn)
    rw [toList_itemsText_cons, List.length_append, List.length_cons, List.length_cons] at hn
    have hends (cs : List Char) : Ends (',' :: cs) := ends_of_not_digit (by decide)
    have hv := readValue_text v (hends (' ' :: ((itemsText (w :: vs)).toList ++ ']' :: rest)))
      (fun h => (hwritable h).1) (by omega : _ ≤ n)
    have hvs := readItems_text (w :: vs) (List.cons_ne_nil _ _) (fun h => (hwritable h).2)
      (by omega : _ < n) (v.image :: items) rest
    rw [toList_itemsText_cons, List.append_assoc, List.cons_append, List.cons_append, readItems, hv]
    dsimp only
    rw [skipSpace_cons (c := ',') rfl]
    simp only [skipSpace_items, hvs, itemImages, List.reverse_cons, List.append_assoc, List.singleton_append]

theorem readFields_text {limit : Bool} : ∀ fields : List (String × Json), fields ≠ [] →
    (limit = true → FieldsWritable fields) → ∀ {n : Nat}, (fieldsText fields).toList.length < n →
      ∀ (pairs : List (String × Json)) (rest : List Char),
        readFields limit n pairs ((fieldsText fields).toList ++ '\x7d' :: rest) =
          .ok (.obj (Fields.ofPairs (pairs.reverse ++ fieldImages fields)), rest)
  | [], hne, _, _, _, _, _ => absurd rfl hne
  | [(k, v)], _, hwritable, n, hn, pairs, rest => by
    obtain ⟨n, rfl⟩ := Nat.exists_eq_succ_of_ne_zero (Nat.ne_zero_of_lt hn)
    rw [toList_fieldsText_one] at hn ⊢
    simp only [List.length_append, List.length_cons] at hn
    have hends : Ends ('\x7d' :: rest) := ends_of_not_digit (by decide)
    have hv := readValue_text v hends (fun h => (hwritable h).1) (by omega : _ ≤ n)
    simp only [List.cons_append, List.append_assoc]
    rw [readFields_key, hv]
    simp [skipSpace_cons, isSpace, fieldImages]
  | (k, v) :: field :: fields, _, hwritable, n, hn, pairs, rest => by
    obtain ⟨n, rfl⟩ := Nat.exists_eq_succ_of_ne_zero (Nat.ne_zero_of_lt hn)
    rw [toList_fieldsText_cons] at hn ⊢
    simp only [List.length_append, List.length_cons] at hn
    have hends (cs : List Char) : Ends (',' :: cs) := ends_of_not_digit (by decide)
    have hv := readValue_text v (hends (' ' :: ((fieldsText (field :: fields)).toList ++ '\x7d' :: rest)))
      (fun h => (hwritable h).1) (by omega : _ ≤ n)
    have hfields := readFields_text (field :: fields) (List.cons_ne_nil _ _) (fun h => (hwritable h).2)
      (by omega : _ < n) ((k, v.image) :: pairs) rest
    simp only [List.cons_append, List.append_assoc]
    rw [readFields_key, hv]
    dsimp only
    rw [skipSpace_cons (c := ',') rfl]
    simp only [skipSpace_fields, hfields, fieldImages, List.reverse_cons, List.append_assoc,
      List.singleton_append]

end

/-- A value is read back from its text as its image. -/
theorem read_text {limit : Bool} {v : Json} (h : limit = true → v.Writable) :
    read limit v.text = .ok v.image := by
  obtain ⟨c, cs, htext, hc⟩ := text_start v
  have hmark : c ≠ '\uFEFF' := hc.ne rfl (by decide)
  have hends : Ends [] := by simp [Ends]
  have hread := readValue_text v hends h (Nat.le_succ _)
  have hskip := skipSpace_text v []
  rw [List.append_nil] at hread hskip
  unfold read
  dsimp only
  split
  · rename_i heq
    rw [htext] at heq
    exact absurd (List.cons.inj heq).1 hmark
  · rw [hskip, hread]
    rfl

end Userscript.Json
