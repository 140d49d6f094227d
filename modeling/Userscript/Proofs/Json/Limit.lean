import Mathlib.Data.List.TakeWhile
import Userscript.Proofs.Json.RoundTrip
import Userscript.Proofs.Work

/-!
# Userscript.Proofs.Json.Limit

What was read under the limit of digits can be written again.

* `isShort_of_digits`: a numeral within the limit stands for a short integer;
* `writable_of_readValue`: whatever the reader takes off the front of a text is writable;
* `writable_of_read`: so is every text that is read as a whole.
-/

namespace Userscript.Json

/-! ## Items and fields -/

theorem itemsWritable_iff {items : List Json} : ItemsWritable items ↔ ∀ v ∈ items, v.Writable := by
  induction items with
  | nil => simp [ItemsWritable]
  | cons v rest ih => rw [ItemsWritable, ih, List.forall_mem_cons]

theorem fieldsWritable_iff {fields : List (String × Json)} :
    FieldsWritable fields ↔ ∀ f ∈ fields, f.2.Writable := by
  induction fields with
  | nil => simp [FieldsWritable]
  | cons f rest ih =>
    obtain ⟨k, v⟩ := f
    rw [FieldsWritable, ih, List.forall_mem_cons]

/-- The value of a field of writable fields. -/
theorem FieldsWritable.field {fields : List (String × Json)} (h : FieldsWritable fields) (name : String) :
    (Json.field name fields).Writable := by
  rw [Json.field]
  induction fields with
  | nil => exact trivial
  | cons f rest ih =>
    obtain ⟨k, v⟩ := f
    rw [Fields.get?]
    split
    · exact h.1
    · exact ih h.2

theorem mem_set {name : String} {value : Json} {fields : Fields Json} {f : String × Json}
    (h : f ∈ Fields.set name value fields) : f.2 = value ∨ f ∈ fields := by
  induction fields with
  | nil =>
    rw [List.mem_singleton.1 h]
    exact .inl rfl
  | cons g rest ih =>
    obtain ⟨k, w⟩ := g
    rw [Fields.set] at h
    split at h
    · rcases List.mem_cons.1 h with rfl | h
      · exact .inl rfl
      · exact .inr (List.mem_cons_of_mem _ h)
    · rcases List.mem_cons.1 h with rfl | h
      · exact .inr List.mem_cons_self
      · exact (ih h).imp_right (List.mem_cons_of_mem _)

/-- Fields that are set one after another have no other values. -/
theorem forall_mem_ofPairs {P : Json → Prop} {pairs : List (String × Json)} (h : ∀ f ∈ pairs, P f.2) :
    ∀ f ∈ Fields.ofPairs pairs, P f.2 := by
  have each (before : Fields Json) (later : List (String × Json)) (hbefore : ∀ f ∈ before, P f.2)
      (hlater : ∀ f ∈ later, P f.2) :
      ∀ f ∈ later.foldl (fun fields p => Fields.set p.1 p.2 fields) before, P f.2 := by
    induction later generalizing before with
    | nil => exact hbefore
    | cons p rest ih =>
      rw [List.forall_mem_cons] at hlater
      refine ih _ (fun f hf => ?_) hlater.2
      rcases mem_set hf with hvalue | hold
      · rw [hvalue]
        exact hlater.1
      · exact hbefore f hold
  exact each [] pairs (List.forall_mem_nil _) h

theorem FieldsWritable.ofPairs {pairs : List (String × Json)} (h : FieldsWritable pairs) :
    FieldsWritable (Fields.ofPairs pairs) :=
  fieldsWritable_iff.mpr (forall_mem_ofPairs (fieldsWritable_iff.mp h))

/-! ## Numbers -/

theorem ofDigits_lt {ds : List Nat} (h : ∀ d ∈ ds, d < 10) : Number.ofDigits ds < 10 ^ ds.length := by
  have each (n : Nat) : ds.foldl (fun m d => m * 10 + d) n < (n + 1) * 10 ^ ds.length := by
    induction ds generalizing n with
    | nil => simp
    | cons d rest ih =>
      rw [List.forall_mem_cons] at h
      have hlater := ih h.2 (n * 10 + d)
      have hstep : (n * 10 + d + 1) * 10 ^ rest.length ≤ (n + 1) * 10 * 10 ^ rest.length :=
        Nat.mul_le_mul_right _ (by omega)
      rw [List.foldl_cons, List.length_cons, Nat.pow_succ', ← Nat.mul_assoc]
      exact Nat.lt_of_lt_of_le hlater hstep
  have hall := each 0
  rwa [Nat.zero_add, Nat.one_mul] at hall

/-- A numeral within the limit stands for a short integer. -/
theorem isShort_of_digits {ds : List Nat} (h : ∀ d ∈ ds, d < 10) (hlength : ds.length ≤ Number.digitLimit)
    (negative : Bool) :
    IsShort (if negative then -(Number.ofDigits ds : Int) else Number.ofDigits ds) := by
  have hpow {m : Nat} (hm : ds.length ≤ m) : 10 ^ ds.length ≤ Nat.pow 10 m := Nat.pow_le_pow_right (by decide) hm
  have hlt : Number.ofDigits ds < Nat.pow 10 Number.digitLimit := Nat.lt_of_lt_of_le (ofDigits_lt h) (hpow hlength)
  rw [IsShort]
  cases negative with
  | false =>
    rw [if_neg Bool.false_ne_true, Int.natAbs_natCast]
    exact hlt
  | true =>
    rw [if_pos rfl, Int.natAbs_neg, Int.natAbs_natCast]
    exact hlt

theorem spanDigits_lt (cs : List Char) : ∀ d ∈ (spanDigits cs).1, d < 10 := by
  intro d hd
  obtain ⟨c, hc, rfl⟩ := List.mem_map.1 hd
  have hdigit : c.isDigit = true := List.mem_takeWhile_imp hc
  simp only [Char.isDigit, Bool.and_eq_true, decide_eq_true_eq] at hdigit
  have htop : c.toNat ≤ '9'.toNat := hdigit.2
  have : '9'.toNat = 57 := rfl
  omega

theorem takeWhole_lt (cs : List Char) : ∀ d ∈ (takeWhole cs).1, d < 10 := by
  unfold takeWhole
  split
  · intro d hd
    rw [List.mem_singleton.1 hd]
    omega
  · exact spanDigits_lt _

theorem writable_of_numberOf {negative : Bool} {whole fraction : List Nat} {exponent : Option Int} {v : Json}
    (hwhole : ∀ d ∈ whole, d < 10) (h : numberOf true negative whole fraction exponent = .ok v) : v.Writable := by
  unfold numberOf at h
  split at h
  · split at h
    · cases h
    · next hlimit =>
      obtain rfl := Except.ok.inj h
      rw [Bool.true_and, decide_eq_true_eq, Nat.not_lt] at hlimit
      exact isShort_of_digits hwhole hlimit negative
  · obtain rfl := Except.ok.inj h
    exact trivial

theorem writable_of_readNumber? {cs rest : List Char} {v : Json} (h : readNumber? true cs = some (.ok (v, rest))) :
    v.Writable := by
  unfold readNumber? at h
  dsimp only at h
  split at h
  · cases h
  · next whole _ _ hwhole =>
    have hdigits := takeWhole_lt (takeMinus cs).2
    rw [hwhole] at hdigits
    obtain ⟨w, hnumber, hpair⟩ := map_eq_ok (Option.some.inj h)
    obtain ⟨rfl, -⟩ := Prod.mk.inj hpair
    exact writable_of_numberOf hdigits hnumber

theorem writable_of_readWord? {cs rest : List Char} {v : Json} (h : readWord? cs = some (v, rest)) : v.Writable := by
  unfold readWord? at h
  simp only [Option.orElse_eq_some, Option.map_eq_some_iff, Prod.mk.injEq] at h
  grind [Writable]

/-! ## Values -/

mutual

/-- Whatever is read under the limit is writable. -/
theorem writable_of_readValue : ∀ {fuel : Nat} {cs rest : List Char} {v : Json},
    readValue true fuel cs = .ok (v, rest) → v.Writable
  | 0, _, _, _, h => by cases h
  | fuel + 1, cs, rest, v, h => by
    unfold readValue at h
    split at h
    · obtain ⟨_, -, h⟩ := bind_eq_ok h
      cases h
      exact trivial
    · split at h
      · cases h
        exact trivial
      · exact writable_of_readItems (show ItemsWritable [] from trivial) h
    · split at h
      · cases h
        exact trivial
      · exact writable_of_readFields (show FieldsWritable [] from trivial) h
    · split at h
      · next hword =>
        obtain rfl := Except.ok.inj h
        exact writable_of_readWord? hword
      · cases hnumber : readNumber? true cs with
        | none =>
          rw [hnumber] at h
          cases h
        | some r =>
          rw [hnumber] at h
          obtain rfl : r = .ok (v, rest) := h
          exact writable_of_readNumber? hnumber

theorem writable_of_readItems : ∀ {fuel : Nat} {items : List Json} {cs rest : List Char} {v : Json},
    ItemsWritable items → readItems true fuel items cs = .ok (v, rest) → v.Writable
  | 0, _, _, _, _, _, h => by cases h
  | fuel + 1, items, cs, rest, v, hitems, h => by
    unfold readItems at h
    split at h
    · cases h
    · next w _ hvalue =>
      have hw : w.Writable := writable_of_readValue hvalue
      split at h
      · cases h
        have hall : ItemsWritable (w :: items) := ⟨hw, hitems⟩
        exact itemsWritable_iff.2 fun x hx => itemsWritable_iff.1 hall x (List.mem_reverse.1 hx)
      · exact writable_of_readItems (show ItemsWritable (w :: items) from ⟨hw, hitems⟩) h
      · cases h

theorem writable_of_readFields : ∀ {fuel : Nat} {pairs : List (String × Json)} {cs rest : List Char} {v : Json},
    FieldsWritable pairs → readFields true fuel pairs cs = .ok (v, rest) → v.Writable
  | 0, _, _, _, _, _, h => by cases h
  | fuel + 1, pairs, cs, rest, v, hpairs, h => by
    unfold readFields at h
    split at h
    · split at h
      · cases h
      · next k _ _ =>
        split at h
        · split at h
          · cases h
          · next w _ hvalue =>
            have hw : w.Writable := writable_of_readValue hvalue
            split at h
            · cases h
              have hall : FieldsWritable ((k, w) :: pairs) := ⟨hw, hpairs⟩
              exact .ofPairs (fieldsWritable_iff.2 fun f hf => fieldsWritable_iff.1 hall f (List.mem_reverse.1 hf))
            · exact writable_of_readFields (show FieldsWritable ((k, w) :: pairs) from ⟨hw, hpairs⟩) h
            · cases h
        · cases h
    · cases h

end

/-- A text that is read under the limit stands for data that can be written. -/
theorem writable_of_read {text : String} {v : Json} (h : read true text = .ok v) : v.Writable := by
  unfold read at h
  dsimp only at h
  split at h
  · cases h
  · split at h
    · cases h
    · next hvalue =>
      split at h
      · obtain rfl := Except.ok.inj h
        exact writable_of_readValue hvalue
      · cases h

end Userscript.Json
