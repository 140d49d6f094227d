import Mathlib.Data.List.Basic
import Userscript.Json.Reader
import Userscript.Json.Text

/-!
# Userscript.Proofs.Json.Numeral

Numerals read back, part by part.

A `Numeral` is the text of a number as the reader takes it apart: a sign, the digits before the point, those
behind it and an exponent. `readNumber?_chars` says what a numeral stands for, whatever follows it that does not
go on with it. Integers are written as such numerals (`Numeral.ofInt`) and stand for themselves.
-/

namespace Userscript.Json

def digitOf (c : Char) : Nat := c.toNat - 48

/-- Nothing at the front that could belong to a numeral before it. -/
def Ends (rest : List Char) : Prop :=
  ∀ c ∈ rest.head?, c.isDigit = false ∧ c ≠ '.' ∧ c ≠ 'e' ∧ c ≠ 'E'

def NoDigit (rest : List Char) : Prop := ∀ c ∈ rest.head?, c.isDigit = false

theorem Ends.noDigit {rest : List Char} (h : Ends rest) : NoDigit rest := fun c hc => (h c hc).1

theorem spanDigits_append {ds rest : List Char} (hds : ∀ c ∈ ds, c.isDigit = true) (hrest : NoDigit rest) :
    spanDigits (ds ++ rest) = (ds.map digitOf, rest) := by
  have hstop : rest.takeWhile Char.isDigit = [] ∧ rest.dropWhile Char.isDigit = rest := by
    cases rest with
    | nil => exact ⟨rfl, rfl⟩
    | cons c cs =>
      have hc : c.isDigit = false := hrest c rfl
      simp [hc]
  rw [spanDigits, List.takeWhile_append_of_pos hds, List.dropWhile_append_of_pos hds, hstop.1, hstop.2,
    List.append_nil]
  rfl

/-- The text of a number in its parts. -/
structure Numeral where
  negative : Bool := false
  whole : List Char
  fraction : List Char := []
  /-- Whether the exponent is negative, and its digits. -/
  exponent : Option (Bool × List Char) := none

namespace Numeral

/-- The point and the digits behind it. -/
def fractionChars (n : Numeral) : List Char := if n.fraction = [] then [] else '.' :: n.fraction

def exponentChars (n : Numeral) : List Char :=
  match n.exponent with
  | none => []
  | some (down, ds) => 'e' :: (if down then '-' else '+') :: ds

def chars (n : Numeral) : List Char :=
  (if n.negative then ['-'] else []) ++ (n.whole ++ (n.fractionChars ++ n.exponentChars))

/-- What the parts of a numeral are made of. -/
structure WellFormed (n : Numeral) : Prop where
  whole : ∀ c ∈ n.whole, c.isDigit = true
  ne_nil : n.whole ≠ []
  /-- A zero at the front stands alone. -/
  zero : ∀ c cs, n.whole = c :: cs → c = '0' → cs = []
  fraction : ∀ c ∈ n.fraction, c.isDigit = true
  exponent : ∀ down ds, n.exponent = some (down, ds) → ds ≠ [] ∧ ∀ c ∈ ds, c.isDigit = true

def power? (n : Numeral) : Option Int :=
  n.exponent.map fun (down, ds) =>
    if down then -(Number.ofDigits (ds.map digitOf) : Int) else Number.ofDigits (ds.map digitOf)

/-- The number that a numeral stands for. -/
def value (limit : Bool) (n : Numeral) : Except ReadFault Json :=
  numberOf limit n.negative (n.whole.map digitOf) (n.fraction.map digitOf) n.power?

end Numeral

theorem ne_of_isDigit {c d : Char} (hc : c.isDigit = true) (hd : d.isDigit = false) : c ≠ d := by
  rintro rfl
  rw [hc] at hd
  cases hd

variable {n : Numeral} {rest : List Char}

theorem takeMinus_chars (h : n.WellFormed) :
    takeMinus (n.chars ++ rest) =
      (n.negative, n.whole ++ (n.fractionChars ++ n.exponentChars ++ rest)) := by
  obtain ⟨c, cs, hwhole⟩ := List.exists_cons_of_ne_nil h.ne_nil
  have hc : c ≠ '-' := ne_of_isDigit (h.whole c (by simp [hwhole])) rfl
  rw [Numeral.chars]
  cases n.negative with
  | true => simp [takeMinus]
  | false =>
    simp only [hwhole, Bool.false_eq_true, if_false, List.nil_append, List.cons_append, List.append_assoc]
    unfold takeMinus
    split
    · rename_i heq
      cases heq
      exact absurd rfl hc
    · rfl

theorem noDigit_tail (hrest : Ends rest) : NoDigit (n.fractionChars ++ n.exponentChars ++ rest) := by
  intro c hc
  unfold Numeral.fractionChars Numeral.exponentChars at hc
  split at hc
  · split at hc
    · exact hrest.noDigit c (by simpa using hc)
    · obtain rfl : 'e' = c := by simpa using hc
      rfl
  · obtain rfl : '.' = c := by simpa using hc
    rfl

theorem takeWhole_chars (h : n.WellFormed) {more : List Char} (hmore : NoDigit more) :
    takeWhole (n.whole ++ more) = (n.whole.map digitOf, more) := by
  obtain ⟨c, cs, hwhole⟩ := List.exists_cons_of_ne_nil h.ne_nil
  unfold takeWhole
  split
  · rename_i after heq
    rw [hwhole, List.cons_append, List.cons.injEq] at heq
    obtain rfl := h.zero c cs hwhole heq.1
    rw [hwhole, heq.1, ← heq.2]
    rfl
  · exact spanDigits_append h.whole hmore

theorem takeFraction_chars (h : n.WellFormed) (hrest : Ends rest) :
    takeFraction (n.fractionChars ++ (n.exponentChars ++ rest)) =
      (n.fraction.map digitOf, n.exponentChars ++ rest) := by
  have hmore : NoDigit (n.exponentChars ++ rest) ∧ ∀ c ∈ (n.exponentChars ++ rest).head?, c ≠ '.' := by
    unfold Numeral.exponentChars
    split
    · exact ⟨hrest.noDigit, fun c hc => (hrest c hc).2.1⟩
    · constructor <;>
      · intro c hc
        obtain rfl : 'e' = c := by simpa using hc
        decide
  unfold Numeral.fractionChars
  by_cases hfraction : n.fraction = []
  · rw [if_pos hfraction, hfraction, List.nil_append]
    unfold takeFraction
    split
    · rename_i heq
      exact absurd rfl (hmore.2 '.' (by rw [heq]; rfl))
    · rfl
  · rw [if_neg hfraction, List.cons_append, takeFraction, spanDigits_append h.fraction hmore.1]
    obtain ⟨d, ds, hds⟩ := List.exists_cons_of_ne_nil hfraction
    rw [hds, List.map_cons]

theorem takeExponent_chars (h : n.WellFormed) (hrest : Ends rest) :
    takeExponent (n.exponentChars ++ rest) = (n.power?, rest) := by
  unfold Numeral.exponentChars Numeral.power?
  split
  · rename_i hnone
    rw [hnone, List.nil_append]
    cases rest with
    | nil => rfl
    | cons c cs =>
      obtain ⟨-, -, he, hE⟩ := hrest c rfl
      simp [takeExponent, he, hE]
  · rename_i down ds hsome
    obtain ⟨hne, hdigits⟩ := h.exponent down ds hsome
    obtain ⟨d, ds', hds⟩ := List.exists_cons_of_ne_nil hne
    have hsign : Number.splitSign ((if down then '-' else '+') :: (ds ++ rest)) = (down, ds ++ rest) := by
      cases down <;> rfl
    rw [List.cons_append, List.cons_append, takeExponent, if_pos (by decide), hsign]
    dsimp only
    rw [spanDigits_append hdigits hrest.noDigit, hsome, hds, List.map_cons]
    rfl

/-- What a numeral stands for, whatever follows it that does not go on with it. -/
theorem readNumber?_chars (h : n.WellFormed) (hrest : Ends rest) (limit : Bool) :
    readNumber? limit (n.chars ++ rest) = some ((n.value limit).map fun v => (v, rest)) := by
  obtain ⟨c, cs, hwhole⟩ := List.exists_cons_of_ne_nil h.ne_nil
  rw [readNumber?, takeMinus_chars h]
  dsimp only
  rw [takeWhole_chars h (noDigit_tail hrest), List.append_assoc, hwhole, List.map_cons]
  dsimp only
  rw [takeFraction_chars h hrest]
  dsimp only
  rw [takeExponent_chars h hrest, Numeral.value, hwhole, List.map_cons]

/-! ## Values that are numbers -/

theorem chars_eq_cons (h : n.WellFormed) :
    ∃ c cs, n.chars = c :: cs ∧
      (c.isDigit = true ∨ c = '-' ∧ ∃ d ds, cs = d :: ds ∧ d.isDigit = true) := by
  obtain ⟨c, cs, hwhole⟩ := List.exists_cons_of_ne_nil h.ne_nil
  have hc : c.isDigit = true := h.whole c (by simp [hwhole])
  rw [Numeral.chars, hwhole]
  cases n.negative with
  | true => exact ⟨'-', _, rfl, .inr ⟨rfl, c, _, rfl, hc⟩⟩
  | false => exact ⟨c, _, rfl, .inl hc⟩

theorem readWord?_chars (h : n.WellFormed) : readWord? (n.chars ++ rest) = none := by
  obtain ⟨c, cs, hchars, hc | ⟨rfl, d, ds, rfl, hd⟩⟩ := chars_eq_cons h
  · have hne (w : Char) (hw : w.isDigit = false) : w ≠ c := (ne_of_isDigit hc hw).symm
    simp [hchars, readWord?, after?, hne]
  · have hne : 'I' ≠ d := (ne_of_isDigit hd rfl).symm
    simp [hchars, readWord?, after?, hne]

/-- A numeral is read as a value, whatever follows it that does not go on with it. -/
theorem readValue_chars (h : n.WellFormed) (hrest : Ends rest) (limit : Bool) (fuel : Nat) :
    readValue limit (fuel + 1) (n.chars ++ rest) = (n.value limit).map fun v => (v, rest) := by
  have hword : readWord? (n.chars ++ rest) = none := readWord?_chars h
  have hnumber := readNumber?_chars h hrest limit
  obtain ⟨c, cs, hchars, hc⟩ := chars_eq_cons h
  have hother {w : Char} (hw : w.isDigit = false ∧ w ≠ '-') : c ≠ w := by
    rcases hc with hc | ⟨rfl, -⟩
    · exact ne_of_isDigit hc hw.1
    · exact hw.2.symm
  rw [hchars, List.cons_append] at hword hnumber ⊢
  unfold readValue
  split
  · rename_i heq
    exact absurd (List.cons.inj heq).1 (hother (by decide))
  · rename_i heq
    exact absurd (List.cons.inj heq).1 (hother (by decide))
  · rename_i heq
    exact absurd (List.cons.inj heq).1 (hother (by decide))
  · rw [hword, hnumber]
    rfl

/-! ## Integers -/

/-- An integer of few enough digits to be written and read. -/
def IsShort (i : Int) : Prop := i.natAbs < Nat.pow 10 Number.digitLimit

theorem eq_zero_of_head?_toDigits {k : Nat} (h : (Nat.toDigits 10 k).head? = some '0') : k = 0 := by
  induction k using Nat.strongRecOn with
  | ind k ih =>
    rcases Nat.lt_or_ge k 10 with hlt | hge
    · rw [Nat.toDigits_of_lt_base hlt] at h
      have hzero : ∀ d < 10, Nat.digitChar d = '0' → d = 0 := by decide
      exact hzero k hlt (Option.some.inj h)
    · rw [Nat.toDigits_of_base_le (by omega) hge, List.head?_append_of_ne_nil _ Nat.toDigits_ne_nil] at h
      have := ih (k / 10) (by omega) h
      omega

theorem ofDigits_toDigits (k : Nat) : Number.ofDigits ((Nat.toDigits 10 k).map digitOf) = k := by
  have hfold (cs : List Char) (init : Nat) :
      (cs.map digitOf).foldl (fun m d => m * 10 + d) init = Nat.ofDigitChars 10 cs init := by
    rw [Nat.ofDigitChars, List.foldl_map]
    simp only [Nat.mul_comm 10]
    rfl
  rw [Number.ofDigits, hfold, Nat.ofDigitChars_ten_toDigits]

namespace Numeral

def ofInt (i : Int) : Numeral where
  negative := i < 0
  whole := Nat.toDigits 10 i.natAbs

theorem chars_ofInt_eq_append (i : Int) :
    (ofInt i).chars = (if i < 0 then ['-'] else []) ++ Nat.toDigits 10 i.natAbs := by
  simp [chars, ofInt, fractionChars, exponentChars]

theorem chars_ofInt (i : Int) : (ofInt i).chars = (toString i).toList := by
  rw [chars_ofInt_eq_append]
  cases i with
  | ofNat k =>
    have hk : ¬ Int.ofNat k < 0 := Int.not_lt.2 (Int.natCast_nonneg k)
    rw [if_neg hk, List.nil_append]
    exact Nat.toList_repr.symm
  | negSucc k =>
    rw [if_pos (Int.negSucc_lt_zero k)]
    change '-' :: Nat.toDigits 10 (k + 1) = ("-" ++ (k + 1).repr).toList
    rw [String.toList_append, Nat.toList_repr]
    rfl

theorem wellFormed_ofInt (i : Int) : (ofInt i).WellFormed where
  whole c hc := Nat.isDigit_of_mem_toDigits (by omega) (by omega) hc
  ne_nil := Nat.toDigits_ne_nil
  zero c cs hwhole hc := by
    have hwhole : Nat.toDigits 10 i.natAbs = c :: cs := hwhole
    have hzero := eq_zero_of_head?_toDigits (k := i.natAbs) (by rw [hwhole, hc]; rfl)
    rw [hzero, Nat.toDigits_zero] at hwhole
    exact (List.cons.inj hwhole).2.symm
  fraction _ hc := by cases hc
  exponent _ _ h := by cases h

theorem value_ofInt {limit : Bool} {i : Int} (h : limit = true → IsShort i) : (ofInt i).value limit = .ok (.int i) := by
  have hshort : (limit && decide (Number.digitLimit < ((ofInt i).whole.map digitOf).length)) = false := by
    cases limit with
    | false => rfl
    | true =>
      rw [Bool.true_and, decide_eq_false_iff_not, Nat.not_lt, List.length_map]
      have hpos : 0 < Number.digitLimit := Nat.zero_lt_succ _
      have hlt := h rfl
      rw [IsShort, Nat.pow_eq, ← Nat.length_toDigits_le_iff (by omega) hpos] at hlt
      exact hlt
  have hdigits : Number.ofDigits ((ofInt i).whole.map digitOf) = i.natAbs := ofDigits_toDigits _
  have hsign : (if decide (i < 0) then -(i.natAbs : Int) else i.natAbs) = i := by
    simp only [decide_eq_true_eq]
    omega
  have hvalue : (ofInt i).value limit =
      if limit && decide (Number.digitLimit < ((ofInt i).whole.map digitOf).length) then
        .error (.integer ((ofInt i).whole.map digitOf).length)
      else
        .ok (.int (if decide (i < 0) then -(Number.ofDigits ((ofInt i).whole.map digitOf) : Int)
          else Number.ofDigits ((ofInt i).whole.map digitOf))) := rfl
  rw [hvalue, hshort, hdigits, hsign]
  rfl

end Numeral

end Userscript.Json
