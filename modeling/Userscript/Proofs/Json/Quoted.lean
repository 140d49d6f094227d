import Mathlib.Data.List.Basic
import Userscript.Json.Reader
import Userscript.Json.Text

/-!
# Userscript.Proofs.Json.Quoted

A text written as a JSON string is read back as it was, whatever characters it has.

A character stands for itself, for an escape of one letter, or for its UTF-16 code units: one, or a
pair. `readString_escapeChar` takes one character off, in one step of the reader; the rest is an
induction on the text.
-/

namespace Userscript.Json

/-! ## Hexadecimal digits -/

theorem hexValue?_digitChar : ∀ d < 16, hexValue? (Nat.digitChar d) = some d := by decide

/-- The four digits of a code unit. -/
theorem toList_hex {n : Nat} (h : n < 0x10000) :
    (Text.hex 4 n).toList =
      [Nat.digitChar (n / 4096), Nat.digitChar (n / 256 % 16), Nat.digitChar (n / 16 % 16),
        Nat.digitChar (n % 16)] := by
  have two (k : Nat) : k / 16 / 16 = k / 256 := Nat.div_div_eq_div_mul k 16 16
  have three (k : Nat) : k / 256 / 16 = k / 4096 := Nat.div_div_eq_div_mul k 256 16
  have zero {k : Nat} (hk : k = 0) : Nat.digitChar k = '0' := by rw [hk]; rfl
  rw [Text.hex, String.toList_ofList]
  rcases Nat.lt_or_ge n 16 with h₁ | h₁
  · rw [Nat.toDigits_of_lt_base h₁, zero (by omega : n / 4096 = 0), zero (by omega : n / 256 % 16 = 0),
      zero (by omega : n / 16 % 16 = 0), Nat.mod_eq_of_lt h₁]
    rfl
  rw [Nat.toDigits_of_base_le (by omega) h₁]
  rcases Nat.lt_or_ge n 256 with h₂ | h₂
  · rw [Nat.toDigits_of_lt_base (by omega), zero (by omega : n / 4096 = 0),
      zero (by omega : n / 256 % 16 = 0), Nat.mod_eq_of_lt (by omega : n / 16 < 16)]
    rfl
  rw [Nat.toDigits_of_base_le (by omega) (by omega : 16 ≤ n / 16), two]
  rcases Nat.lt_or_ge n 4096 with h₃ | h₃
  · rw [Nat.toDigits_of_lt_base (by omega), zero (by omega : n / 4096 = 0),
      Nat.mod_eq_of_lt (by omega : n / 256 < 16)]
    rfl
  rw [Nat.toDigits_of_base_le (by omega) (by omega : 16 ≤ n / 256), three,
    Nat.toDigits_of_lt_base (by omega)]
  rfl

theorem hex4?_hex {n : Nat} (h : n < 0x10000) (rest : List Char) :
    hex4? ((Text.hex 4 n).toList ++ rest) = some (n, rest) := by
  rw [toList_hex h]
  simp only [List.cons_append, List.nil_append, hex4?, bind, Option.bind,
    hexValue?_digitChar (n / 4096) (by omega), hexValue?_digitChar (n / 256 % 16) (by omega),
    hexValue?_digitChar (n / 16 % 16) (by omega), hexValue?_digitChar (n % 16) (by omega), pure,
    Option.some.injEq, Prod.mk.injEq, and_true]
  omega

theorem toList_escapeUnit (n : Nat) :
    (escapeUnit n).toList = '\\' :: 'u' :: (Text.hex 4 n).toList := by
  rw [escapeUnit, String.toList_append]
  rfl

/-! ## One character -/

theorem char_not_surrogate (c : Char) : c.toNat < 0xD800 ∨ 0xDFFF < c.toNat := by
  rcases c.valid with h | h
  · exact .inl h
  · exact .inr h.1

theorem char_lt (c : Char) : c.toNat < 0x110000 := by
  rcases c.valid with h | h
  · exact Nat.lt_trans h (by decide)
  · exact h.2

variable {start fuel : Nat} {out : Array Char} {t : List Char}

/-- A code unit that is no half of a pair is a character. -/
theorem readString_unit {c : Char} (hc : c.toNat < 0x10000) (ht : t ≠ []) :
    readString start out (fuel + 1) ((escapeUnit c.toNat).toList ++ t) =
      readString start (out.push c) fuel t := by
  have hhex := hex4?_hex hc t
  obtain ⟨d, rest, rfl⟩ := List.exists_cons_of_ne_nil ht
  have hhigh : isHigh c.toNat = false := by
    have := char_not_surrogate c
    simp only [isHigh, Bool.and_eq_false_iff, decide_eq_false_iff_not]
    omega
  have hlow : isLow c.toNat = false := by
    have := char_not_surrogate c
    simp only [isLow, Bool.and_eq_false_iff, decide_eq_false_iff_not]
    omega
  have hunit : unitChar c.toNat = c := by
    simp [unitChar, hhigh, hlow, Char.ofNat_toNat]
  rw [toList_escapeUnit]
  rw [toList_hex hc] at hhex ⊢
  simp only [List.cons_append, List.nil_append] at hhex ⊢
  rw [readString]
  simp only [hhex, hhigh, hunit]

/-- Two code units that are a pair are one character. -/
theorem readString_units {high low : Nat} (hhigh : isHigh high = true) (hlow : isLow low = true)
    (ht : t ≠ []) :
    readString start out (fuel + 1)
        ((escapeUnit high).toList ++ ((escapeUnit low).toList ++ t)) =
      readString start
        (out.push (Char.ofNat (0x10000 + (high - 0xD800) * 0x400 + (low - 0xDC00)))) fuel t := by
  obtain ⟨d, rest, rfl⟩ := List.exists_cons_of_ne_nil ht
  have hfirst : high < 0x10000 := by
    simp only [isHigh, Bool.and_eq_true, decide_eq_true_eq] at hhigh
    omega
  have hsecond : low < 0x10000 := by
    simp only [isLow, Bool.and_eq_true, decide_eq_true_eq] at hlow
    omega
  have hhex := hex4?_hex hfirst ((escapeUnit low).toList ++ d :: rest)
  have hhex' := hex4?_hex hsecond (d :: rest)
  simp only [toList_escapeUnit, toList_hex hfirst, toList_hex hsecond, List.cons_append,
    List.nil_append] at hhex hhex' ⊢
  rw [readString]
  simp only [hhex, hhigh, hhex', hlow, List.length_cons, if_true]
  rw [if_neg (by omega)]

/-- The pair of a character beyond the first 65536. -/
theorem readString_pair {c : Char} (hc : 0x10000 ≤ c.toNat) (ht : t ≠ []) :
    readString start out (fuel + 1)
        ((escapeUnit (0xD800 + (c.toNat - 0x10000) / 0x400)).toList ++
          ((escapeUnit (0xDC00 + (c.toNat - 0x10000) % 0x400)).toList ++ t)) =
      readString start (out.push c) fuel t := by
  have hlt := char_lt c
  generalize hhigh : 0xD800 + (c.toNat - 0x10000) / 0x400 = high
  generalize hlow : 0xDC00 + (c.toNat - 0x10000) % 0x400 = low
  have hvalue : 0x10000 + (high - 0xD800) * 0x400 + (low - 0xDC00) = c.toNat := by omega
  rw [readString_units _ _ ht, hvalue, Char.ofNat_toNat]
  · simp only [isHigh, Bool.and_eq_true, decide_eq_true_eq]
    omega
  · simp only [isLow, Bool.and_eq_true, decide_eq_true_eq]
    omega

/-- The reader takes one character off, whatever it is escaped by. -/
theorem readString_escapeChar (c : Char) (ht : t ≠ []) :
    readString start out (fuel + 1) ((escapeChar c).toList ++ t) =
      readString start (out.push c) fuel t := by
  obtain ⟨d, rest, hrest⟩ := List.exists_cons_of_ne_nil ht
  unfold escapeChar
  -- Five escapes by letter come first, then two more by their codes; what is left is plain, one unit or a pair.
  split
  · subst_vars; rfl
  split
  · subst_vars; rfl
  split
  · subst_vars; rfl
  split
  · subst_vars; rfl
  split
  · subst_vars; rfl
  rename_i hquote hslash _ _ _
  dsimp only
  split
  · rename_i h
    have hc : c = Char.ofNat 8 := by rw [← h, Char.ofNat_toNat]
    subst hc hrest
    rfl
  split
  · rename_i h
    have hc : c = Char.ofNat 12 := by rw [← h, Char.ofNat_toNat]
    subst hc hrest
    rfl
  split
  · rename_i h
    simp only [Bool.and_eq_true, decide_eq_true_eq] at h
    have hnot : ¬ c.toNat < 32 := by omega
    subst hrest
    simp only [String.toList_singleton, List.cons_append, List.nil_append]
    rw [readString]
    · simp only [hnot, if_false]
    all_goals simp_all
  split
  · exact readString_unit ‹_› ht
  · rw [String.toList_append, List.append_assoc]
    exact readString_pair (by omega) ht

/-! ## Whole texts -/

/-- What stands between the quotes. -/
def escaped (cs : List Char) : List Char := cs.flatMap fun c => (escapeChar c).toList

theorem escaped_cons (c : Char) (cs : List Char) :
    escaped (c :: cs) = (escapeChar c).toList ++ escaped cs := List.flatMap_cons

theorem toList_quoted (s : String) : (quoted s).toList = '"' :: (escaped s.toList ++ ['"']) := by
  have step (cs : List Char) (out : String) :
      (cs.foldl (fun out c => out ++ escapeChar c) out).toList = out.toList ++ escaped cs := by
    induction cs generalizing out with
    | nil => simp [escaped]
    | cons c cs ih => simp [ih, escaped, String.toList_append]
  rw [quoted, String.toList_append, step]
  rfl

theorem toList_escapeChar_ne_nil (c : Char) : (escapeChar c).toList ≠ [] := by
  intro h
  have hstep : readString 0 #[] 1 ((escapeChar c).toList ++ ['"']) = readString 0 (#[].push c) 0 ['"'] :=
    readString_escapeChar c (List.cons_ne_nil _ _)
  rw [h] at hstep
  cases hstep

theorem length_le_escaped (cs : List Char) : cs.length ≤ (escaped cs).length := by
  induction cs with
  | nil => exact Nat.zero_le _
  | cons c cs ih =>
    have hone := List.length_pos_iff.2 (toList_escapeChar_ne_nil c)
    rw [escaped_cons, List.length_append, List.length_cons]
    omega

theorem readString_escaped (cs rest : List Char) (hfuel : cs.length < fuel) :
    readString start out fuel (escaped cs ++ '"' :: rest) =
      .ok (String.ofList (out.toList ++ cs), rest) := by
  induction cs generalizing fuel out with
  | nil =>
    obtain ⟨n, rfl⟩ := Nat.exists_eq_succ_of_ne_zero (Nat.ne_of_gt hfuel)
    simp [escaped, readString]
  | cons c cs ih =>
    obtain ⟨n, rfl⟩ := Nat.exists_eq_succ_of_ne_zero (Nat.ne_zero_of_lt hfuel)
    rw [escaped_cons, List.append_assoc, readString_escapeChar c (by simp), ih (by simpa using hfuel)]
    simp

/-- A quoted text is read back, and the reader stops behind its closing quote. -/
theorem readString_quoted (s : String) (rest : List Char) :
    readString start #[] ((escaped s.toList ++ '"' :: rest).length + 1) (escaped s.toList ++ '"' :: rest) =
      .ok (s, rest) := by
  have hle := length_le_escaped s.toList
  rw [readString_escaped _ _ (by simp only [List.length_append, List.length_cons]; omega)]
  simp

end Userscript.Json
