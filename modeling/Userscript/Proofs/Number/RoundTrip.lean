import Userscript.Proofs.Number.Rounding

/-!
# Userscript.Proofs.Number.RoundTrip

The shortest digits of a number are read as the number.

Every line of a grid that the search takes lies in the interval of the number (`nearest_of_neighbour?`), and the
zeros that are dropped change nothing (`stripZeros_value`); so the digits are rounded back (`ofDecimal_shortest`).
-/

namespace Userscript.Binary64

/-- A power is a whole number over a whole number, one of them 1. -/
theorem power_eq {b : Nat} (hb : 0 < b) (q : Int) :
    ((if 0 ≤ q then Nat.pow b q.toNat else 1 : Nat) : ℚ) =
      (b : ℚ) ^ q * (if 0 ≤ q then 1 else Nat.pow b (-q).toNat : Nat) := by
  have hb' : (b : ℚ) ≠ 0 := by exact_mod_cast hb.ne'
  split
  · rename_i hq
    obtain ⟨k, rfl⟩ := Int.eq_ofNat_of_zero_le hq
    simp
  · rename_i hq
    obtain ⟨k, hk⟩ := Int.eq_ofNat_of_zero_le (show 0 ≤ -q by omega)
    rw [hk, ← Int.neg_neg q, hk]
    simp [hb']

/-- On a grid `2 ^ e` and `10 ^ p` are whole numbers of one unit. -/
theorem exists_grid_scale (e p : Int) :
    ∃ c : ℚ, 0 < c ∧ (gridUnit e p : ℚ) = 2 ^ e * c ∧ (gridStep e p : ℚ) = 10 ^ p * c := by
  refine ⟨(if 0 ≤ e then 1 else Nat.pow 2 (-e).toNat : Nat) * (if 0 ≤ p then 1 else Nat.pow 10 (-p).toNat : Nat),
    ?_, ?_, ?_⟩
  · split <;> split <;> simp
  · rw [gridUnit, Nat.cast_mul, power_eq (by decide), mul_assoc, Nat.cast_ofNat]
  · rw [gridStep, Nat.cast_mul, power_eq (by decide), mul_left_comm, Nat.cast_ofNat]

theorem of_isBetween {closed : Bool} {low high step k : Nat} (h : isBetween closed low high step k = true) :
    low ≤ k * step ∧ k * step ≤ high ∧ (closed = false → low < k * step ∧ k * step < high) := by
  cases closed
  · simp only [isBetween, Bool.false_eq_true, if_false, Bool.and_eq_true, decide_eq_true_eq] at h
    exact ⟨h.2.1.le, h.2.2.le, fun _ => h.2⟩
  · simp only [isBetween, if_true, Bool.and_eq_true, decide_eq_true_eq] at h
    exact ⟨h.2.1, h.2.2, fun hfalse => absurd hfalse (by decide)⟩

variable {m k : Nat} {e p : Int}

theorem isBetween_of_neighbour? (h : neighbour? m e p = some k) :
    isBetween (m % 2 = 0) (lowerEnd m e * gridUnit (e - 2) p) ((4 * m + 2) * gridUnit (e - 2) p)
      (gridStep (e - 2) p) k = true := by
  rw [neighbour?, onGrid_eq, onGrid_eq, onGrid_eq] at h
  rcases nearer?_eq_some h with ⟨hreads, rfl⟩ | ⟨hreads, rfl⟩
  · exact hreads
  · exact hreads

/-- A line that is taken lies in the interval of the number. -/
theorem nearest_of_neighbour? (h : neighbour? m e p = some k) : Nearest m e (k * 10 ^ p) := by
  obtain ⟨c, hc, hunit, hstep⟩ := exists_grid_scale (e - 2) p
  obtain ⟨hlow, hhigh, hopen⟩ := of_isBetween (isBetween_of_neighbour? h)
  have hle {a b : Nat} {x y : ℚ} (ha : (a : ℚ) = x * c) (hb : (b : ℚ) = y * c) (hab : a ≤ b) : x ≤ y := by
    refine le_of_mul_le_mul_right ?_ hc
    rw [← ha, ← hb]
    exact_mod_cast hab
  have hlt {a b : Nat} {x y : ℚ} (ha : (a : ℚ) = x * c) (hb : (b : ℚ) = y * c) (hab : a < b) : x < y := by
    refine lt_of_mul_lt_mul_right ?_ hc.le
    rw [← ha, ← hb]
    exact_mod_cast hab
  have hend (a : Nat) : ((a * gridUnit (e - 2) p : Nat) : ℚ) = a * 2 ^ (e - 2) * c := by
    rw [Nat.cast_mul, hunit, mul_assoc]
  have hline : ((k * gridStep (e - 2) p : Nat) : ℚ) = k * 10 ^ p * c := by
    rw [Nat.cast_mul, hstep, mul_assoc]
  refine ⟨hle (hend _) hline hlow, hle hline (hend _) hhigh, fun hodd => ?_⟩
  obtain ⟨hbelow, habove⟩ := hopen (by simp [hodd])
  exact ⟨hlt (hend _) hline hbelow, hlt hline (hend _) habove⟩

theorem stripZeros_value (fuel k : Nat) (p : Int) :
    ((stripZeros fuel k p).1 : ℚ) * 10 ^ (stripZeros fuel k p).2 = k * 10 ^ p := by
  induction fuel generalizing k p with
  | zero => rfl
  | succ fuel ih =>
    rw [stripZeros]
    split
    · rename_i hzero
      have hten : 10 * (k / 10) = k := Nat.mul_div_cancel' (Nat.dvd_of_mod_eq_zero (by simp at hzero; omega))
      rw [ih, zpow_add_one₀ (by norm_num)]
      conv_rhs => rw [← hten]
      push_cast
      ring
    · rfl

theorem nearest_shortest (h : InFormat m e) : Nearest m e ((shortest m e).1 * 10 ^ (shortest m e).2) := by
  obtain ⟨k, p, hfound, hdigits⟩ := exists_shortest h
  rw [hdigits, stripZeros_value]
  exact nearest_of_neighbour? hfound

/-- Whatever decimal has the value of the shortest digits is read as the number. -/
theorem ofDecimal_shortest {x : Binary64} {s : Bool} (h : x.shape = .finite s m e) (hm : m ≠ 0) {digits : Nat}
    (hvalue : (digits : ℚ) * 10 ^ p = (shortest m e).1 * 10 ^ (shortest m e).2) : ofDecimal s digits p = x := by
  have hshape := canonical_of_shape h hm
  have hnearest := nearest_shortest hshape.toInFormat
  rw [← hvalue] at hnearest
  have hdigits : 0 < digits := by
    refine Nat.pos_of_ne_zero fun hzero => ?_
    have hpositive := lt_of_lt_of_le (by positivity) (hnearest.le_of_pos hshape.pos)
    rw [hzero, Nat.cast_zero, zero_mul] at hpositive
    exact absurd hpositive (lt_irrefl _)
  rw [ofDecimal_nearest hshape hdigits hnearest, packed_of_shape h]

/-- The largest number. -/
example : ofDecimal false 17976931348623157 292 = pack false 2046 (Nat.pow 2 52 - 1) := by
  decide +kernel

end Userscript.Binary64
