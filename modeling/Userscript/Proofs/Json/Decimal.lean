import Userscript.Proofs.Json.Numeral
import Userscript.Proofs.Number.RoundTrip

/-!
# Userscript.Proofs.Json.Decimal

Numbers written as JSON are read back.

The text of a finite number is a numeral with a point or an exponent (`Numeral.ofDecimal`), and its digits are
never zero; so the reader takes all of it, and takes it for a number. However the digits are laid out, their value
is that of the shortest digits (`decimal_ofDecimal`), which are read as the number itself. What is not finite is
written as a word. `reread` is the number that comes back.
-/

namespace Userscript.Json

open Binary64

namespace Numeral

/-- The numeral of `digits * 10 ^ p` under a layout. -/
def ofDecimal (negative : Bool) (l : Layout) (digits : Nat) (p : Int) : Numeral :=
  let ds := Nat.toDigits 10 digits
  let first : Int := p + ds.length - 1
  if l.positionalFrom ≤ first ∧ first < l.positionalBelow then
    if 0 ≤ p then { negative, whole := ds ++ List.replicate p.toNat '0', fraction := ['0'] }
    else if 0 ≤ first then
      { negative, whole := ds.take (first + 1).toNat, fraction := ds.drop (first + 1).toNat }
    else { negative, whole := ['0'], fraction := List.replicate (-first - 1).toNat '0' ++ ds }
  else
    let size := Nat.toDigits 10 first.natAbs
    { negative, whole := ds.take 1, fraction := ds.drop 1,
      exponent := some (first < 0, List.replicate (l.exponentWidth - size.length) '0' ++ size) }

theorem length_toString (k : Nat) : (toString k).length = (Nat.toDigits 10 k).length := by
  rw [← String.length_toList]
  exact congrArg List.length Nat.toList_repr

theorem chars_ofDecimal (negative : Bool) (l : Layout) (digits : Nat) (p : Int) :
    (ofDecimal negative l digits p).chars =
      (if negative then ['-'] else []) ++ (l.write digits p).toList := by
  have hds (k : Nat) : (toString k).toList = Nat.toDigits 10 k := Nat.toList_repr
  have hlength := @Nat.length_toDigits_pos 10 digits
  have hpoint {ds : List Char} (h : ds ≠ []) : (if ds = [] then [] else '.' :: ds) = '.' :: ds := if_neg h
  unfold ofDecimal Layout.write
  simp only [length_toString, Bool.and_eq_true, decide_eq_true_eq, hds]
  split
  · split
    · simp [chars, fractionChars, exponentChars, zeros, String.toList_append]
    split
    · have hdrop : (Nat.toDigits 10 digits).drop (p + (Nat.toDigits 10 digits).length - 1 + 1).toNat ≠ [] := by
        rw [Ne, List.drop_eq_nil_iff]
        omega
      simp only [chars, fractionChars, exponentChars, hpoint hdrop, String.toList_append,
        String.toList_ofList, List.append_nil, List.append_assoc]
      rfl
    · have hne (k : Nat) : List.replicate k '0' ++ Nat.toDigits 10 digits ≠ [] := fun h =>
        Nat.toDigits_ne_nil (List.append_eq_nil_iff.1 h).2
      simp only [chars, fractionChars, exponentChars, hpoint (hne _), zeros, String.toList_append,
        String.toList_ofList, hds, List.append_nil, List.append_assoc]
      rfl
  · obtain ⟨d, ds, hcons⟩ := List.exists_cons_of_ne_nil (@Nat.toDigits_ne_nil digits 10)
    have hmark : (if (Nat.toDigits 10 digits).length = 1 then ""
          else "." ++ String.ofList ((Nat.toDigits 10 digits).drop 1)).toList =
        if (Nat.toDigits 10 digits).drop 1 = [] then [] else '.' :: (Nat.toDigits 10 digits).drop 1 := by
      rw [hcons]
      cases ds with
      | nil => rfl
      | cons _ _ => simp [String.toList_append]
    have hsign (q : Int) : (if q < 0 then "-" else "+").toList = [if decide (q < 0) then '-' else '+'] := by
      by_cases hq : q < 0 <;> simp [hq]
    simp only [chars, fractionChars, exponentChars, zeros, String.toList_append, String.toList_ofList, hds,
      hmark, hsign, List.append_assoc]
    rfl

theorem wellFormed_ofDecimal {negative : Bool} {l : Layout} {digits : Nat} {p : Int} (h : 0 < digits) :
    (ofDecimal negative l digits p).WellFormed := by
  have hdigit {c : Char} {k : Nat} (hc : c ∈ Nat.toDigits 10 k) : c.isDigit = true :=
    Nat.isDigit_of_mem_toDigits (by omega) (by omega) hc
  have hzeros {c : Char} {k : Nat} (hc : c ∈ List.replicate k '0') : c.isDigit = true := by
    rw [List.eq_of_mem_replicate hc]
    rfl
  -- No digit of a positive number is a leading zero, so a whole part that begins with one is that digit alone.
  have hlead {whole : List Char} (hwhole : whole.head? = (Nat.toDigits 10 digits).head?) (c : Char)
      (cs : List Char) (hcons : whole = c :: cs) (hc : c = '0') : cs = [] := by
    rw [hcons, hc] at hwhole
    have := eq_zero_of_head?_toDigits hwhole.symm
    omega
  have hne := @Nat.toDigits_ne_nil digits 10
  have hlength := @Nat.length_toDigits_pos 10 digits
  have hnone (down : Bool) (ds : List Char) (hexponent : none = some (down, ds)) :
      ds ≠ [] ∧ ∀ c ∈ ds, c.isDigit = true := by
    cases hexponent
  unfold ofDecimal
  dsimp only
  split
  · split
    · refine ⟨fun c hc => (List.mem_append.1 hc).elim hdigit hzeros, ?_, ?_, ?_, hnone⟩
      · exact List.append_ne_nil_of_left_ne_nil hne _
      · exact hlead (List.head?_append_of_ne_nil _ hne)
      · intro c hc
        rw [List.mem_singleton.1 hc]
        rfl
    split
    · have hsome : (p + (Nat.toDigits 10 digits).length - 1 + 1).toNat ≠ 0 := by omega
      refine ⟨fun c hc => hdigit (List.mem_of_mem_take hc), ?_, ?_,
        fun c hc => hdigit (List.mem_of_mem_drop hc), hnone⟩
      · rw [Ne, List.take_eq_nil_iff]
        exact not_or.2 ⟨hsome, hne⟩
      · exact hlead (by rw [List.head?_take, if_neg hsome])
    · refine ⟨?_, List.cons_ne_nil _ _, fun c cs hcons _ => (List.cons.inj hcons).2.symm,
        fun c hc => (List.mem_append.1 hc).elim hzeros hdigit, hnone⟩
      intro c hc
      rw [List.mem_singleton.1 hc]
      rfl
  · refine ⟨fun c hc => hdigit (List.mem_of_mem_take hc), ?_, ?_,
      fun c hc => hdigit (List.mem_of_mem_drop hc), ?_⟩
    · rw [Ne, List.take_eq_nil_iff]
      exact not_or.2 ⟨Nat.one_ne_zero, hne⟩
    · exact hlead (by rw [List.head?_take, if_neg Nat.one_ne_zero])
    · intro down ds hexponent
      cases hexponent
      exact ⟨List.append_ne_nil_of_right_ne_nil _ Nat.toDigits_ne_nil,
        fun c hc => (List.mem_append.1 hc).elim hzeros hdigit⟩

/-- The number that a numeral with a point or an exponent stands for. -/
def decimal (n : Numeral) : Binary64 :=
  .ofDecimal n.negative (Number.ofDigits (n.whole.map digitOf ++ n.fraction.map digitOf))
    (n.power?.getD 0 - (n.fraction.map digitOf).length)

theorem value_of_not_integer {n : Numeral} (h : n.fraction ≠ [] ∨ n.exponent.isSome = true) (limit : Bool) :
    n.value limit = .ok (.num n.decimal) := by
  unfold value numberOf power?
  split
  · rename_i hfraction hexponent
    simp_all
  · rfl

theorem value_ofDecimal (negative : Bool) (l : Layout) (digits : Nat) (p : Int) (limit : Bool) :
    (ofDecimal negative l digits p).value limit = .ok (.num (ofDecimal negative l digits p).decimal) := by
  apply value_of_not_integer
  have hlength := @Nat.length_toDigits_pos 10 digits
  unfold ofDecimal
  dsimp only
  split
  · split
    · exact .inl (List.cons_ne_nil _ _)
    split
    · refine .inl fun hnil => ?_
      have := List.drop_eq_nil_iff.1 hnil
      omega
    · refine .inl fun hnil => ?_
      exact Nat.toDigits_ne_nil (List.append_eq_nil_iff.1 hnil).2
  · exact .inr rfl

/-! ## Layouts keep the value -/

theorem ofDigits_append_zeros (ds : List Nat) (k : Nat) :
    Number.ofDigits (ds ++ List.replicate k 0) = Number.ofDigits ds * 10 ^ k := by
  induction k with
  | zero => rw [List.replicate_zero, List.append_nil, Nat.pow_zero, Nat.mul_one]
  | succ k ih =>
    rw [Number.ofDigits] at ih ⊢
    rw [List.replicate_succ', ← List.append_assoc, List.foldl_append, ih, List.foldl_cons, List.foldl_nil,
      Nat.add_zero, Nat.pow_succ, Nat.mul_assoc]

theorem ofDigits_zeros_append (ds : List Nat) (k : Nat) :
    Number.ofDigits (List.replicate k 0 ++ ds) = Number.ofDigits ds := by
  induction k with
  | zero => rw [List.replicate_zero, List.nil_append]
  | succ k ih => exact ih

theorem decimal_eq {n : Numeral} {digits : Nat} {p : Int}
    (hdigits : Number.ofDigits ((n.whole ++ n.fraction).map digitOf) = digits)
    (hpower : n.power?.getD 0 - n.fraction.length = p) : n.decimal = .ofDecimal n.negative digits p := by
  rw [decimal, List.length_map, ← List.map_append, hdigits, hpower]

theorem decimal_ofDecimal (negative : Bool) (l : Layout) (digits : Nat) (p : Int) :
    ∃ (n : Nat) (q : Int), (ofDecimal negative l digits p).decimal = .ofDecimal negative n q ∧
      (n : ℚ) * 10 ^ q = digits * 10 ^ p := by
  have hdigits := ofDigits_toDigits digits
  have hlength := @Nat.length_toDigits_pos 10 digits
  have hzeros (k : Nat) : (List.replicate k '0').map digitOf = List.replicate k 0 := List.map_replicate
  unfold ofDecimal
  dsimp only
  split
  · split
    · rename_i hp
      -- Zeros behind the digits, and one behind the point: the digits grow by what the power loses.
      obtain ⟨k, rfl⟩ := Int.eq_ofNat_of_zero_le hp
      refine ⟨digits * 10 ^ (k + 1), -1, decimal_eq ?_ rfl, ?_⟩
      · change Number.ofDigits ((_ ++ List.replicate k '0' ++ List.replicate 1 '0').map digitOf) = _
        rw [List.append_assoc, List.replicate_append_replicate, List.map_append, hzeros, ofDigits_append_zeros, hdigits]
      · push_cast
        rw [zpow_neg_one, pow_succ, zpow_natCast]
        ring
    split
    · refine ⟨digits, p, decimal_eq ?_ ?_, rfl⟩
      · rw [List.take_append_drop, hdigits]
      · simp only [power?, Option.map_none, Option.getD_none, List.length_drop]
        omega
    · refine ⟨digits, p, decimal_eq ?_ ?_, rfl⟩
      · change Number.ofDigits ((List.replicate 1 '0' ++ (_ ++ _)).map digitOf) = _
        rw [← List.append_assoc, List.replicate_append_replicate, List.map_append, hzeros, ofDigits_zeros_append,
          hdigits]
      · simp only [power?, Option.map_none, Option.getD_none, List.length_append, List.length_replicate]
        omega
  · refine ⟨digits, p, decimal_eq ?_ ?_, rfl⟩
    · rw [List.take_append_drop, hdigits]
    · simp only [power?, Option.map_some, Option.getD_some, List.length_drop, List.map_append, hzeros,
        ofDigits_zeros_append, ofDigits_toDigits, decide_eq_true_eq]
      split <;> omega

end Numeral

/-- The number that the text of a number is read as: itself, but there is one spelling of what is no number. -/
def reread (x : Binary64) : Binary64 := if x.isNaN then .nan else x

/-- The text of a finite number is a numeral that stands for it. -/
theorem exists_numeral {x : Binary64} {s : Bool} {m : Nat} {e : Int} (h : x.shape = .finite s m e) :
    ∃ n : Numeral, n.WellFormed ∧ n.chars = (numberText x).toList ∧ ∀ limit, n.value limit = .ok (.num x) := by
  have hsign : (if s then "-" else "").toList = if s then ['-'] else [] := by cases s <;> rfl
  have htext : numberText x = (if s then "-" else "") ++
      (if m = 0 then "0.0" else numberLayout.write (shortest m e).1 (shortest m e).2) := by
    simp only [numberText, Binary64.text, h]
  rw [htext, String.toList_append, hsign]
  by_cases hm : m = 0
  · subst hm
    have hzero : ∀ c ∈ ['0'], c.isDigit = true := fun c hc => List.mem_singleton.1 hc ▸ rfl
    rw [if_pos rfl]
    refine ⟨{ negative := s, whole := ['0'], fraction := ['0'] },
      ⟨hzero, List.cons_ne_nil _ _, fun c cs hcons _ => (List.cons.inj hcons).2.symm, hzero, by simp⟩, rfl,
      fun limit => ?_⟩
    rw [Numeral.value_of_not_integer (.inl (List.cons_ne_nil _ _)), ← packed_of_shape h, packed_zero]
    exact congrArg (fun y => Except.ok (Json.num y)) (ofDecimal_zero s _)
  · rw [if_neg hm]
    obtain ⟨n, q, hdecimal, hvalue⟩ := Numeral.decimal_ofDecimal s numberLayout (shortest m e).1 (shortest m e).2
    refine ⟨_, Numeral.wellFormed_ofDecimal (shortest_pos (inFormat_of_shape h hm)),
      Numeral.chars_ofDecimal s numberLayout _ _, fun limit => ?_⟩
    rw [Numeral.value_ofDecimal, hdecimal, ofDecimal_shortest h hm hvalue]

theorem readValue_numberText (x : Binary64) (limit : Bool) (fuel : Nat) {rest : List Char}
    (hrest : Ends rest) :
    readValue limit (fuel + 1) ((numberText x).toList ++ rest) = .ok (.num (reread x), rest) := by
  cases hshape : x.shape with
  | nan => simp [numberText, reread, isNaN, hshape, readValue, readWord?, after?]
  | infinite s =>
    have hself : reread x = x := by simp [reread, isNaN, hshape]
    rw [hself]
    cases s <;> simp [numberText, hshape, readValue, readWord?, after?, infinity_of_shape hshape]
  | finite s m e =>
    obtain ⟨n, hwell, hchars, hvalue⟩ := exists_numeral hshape
    rw [← hchars, readValue_chars hwell hrest, hvalue, reread, isNaN, hshape]
    rfl

end Userscript.Json
