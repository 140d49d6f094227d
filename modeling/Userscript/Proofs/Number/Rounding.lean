import Mathlib.Algebra.Order.Field.Power
import Mathlib.Data.Rat.Cast.Order
import Mathlib.Tactic.Linarith
import Mathlib.Tactic.NormNum
import Mathlib.Tactic.Positivity
import Mathlib.Tactic.Ring
import Userscript.Proofs.Number.Shortest

/-!
# Userscript.Proofs.Number.Rounding

A decimal that lies in the interval of a number is read as that number.

* `packed` is the number of a sign, a significand and an exponent, and every finite number is the one of its shape
  (`packed_of_shape`);
* `Nearest m e v`: the interval of `m * 2 ^ e` reaches half a unit up and down, a quarter down where the numbers
  below are denser, and its ends belong to it if the significand is even;
* `ofRatio_nearest`, `ofDecimal_nearest`: what lies there is rounded to the number.
-/

namespace Userscript.Binary64

/-! ## Bits -/

/-- The significand and the exponent of a number that is not zero, as its bits give them. -/
structure Canonical (m : Nat) (e : Int) : Prop extends InFormat m e where
  dense : m < Nat.pow 2 52 → e = -1074

/-- The number of a sign, a significand and an exponent. -/
def packed (negative : Bool) (m : Nat) (e : Int) : Binary64 :=
  if m < Nat.pow 2 52 then pack negative 0 m else pack negative (e + 1075).toNat (m - Nat.pow 2 52)

theorem pack_bits (x : Binary64) :
    pack (x.bits.toNat / Nat.pow 2 63 == 1) (x.bits.toNat / Nat.pow 2 52 % Nat.pow 2 11)
      (x.bits.toNat % Nat.pow 2 52) = x := by
  obtain ⟨bits⟩ := x
  have hlt : bits.toNat < 2 ^ 64 := UInt64.toNat_lt bits
  have hpack : (if (bits.toNat / Nat.pow 2 63 == 1) = true then Nat.pow 2 63 else 0) +
      bits.toNat / Nat.pow 2 52 % Nat.pow 2 11 * Nat.pow 2 52 + bits.toNat % Nat.pow 2 52 = bits.toNat := by
    have h63 : Nat.pow 2 63 = 9223372036854775808 := rfl
    have h52 : Nat.pow 2 52 = 4503599627370496 := rfl
    have h11 : Nat.pow 2 11 = 2048 := rfl
    rw [h63, h52, h11]
    split <;> simp_all <;> omega
  rw [pack]
  congr 1
  exact (congrArg UInt64.ofNat hpack).trans (UInt64.ofNat_toNat)

theorem packed_of_shape {x : Binary64} {s : Bool} {m : Nat} {e : Int} (h : x.shape = .finite s m e) :
    packed s m e = x := by
  have hbits := pack_bits x
  have hfraction : x.bits.toNat % Nat.pow 2 52 < Nat.pow 2 52 := Nat.mod_lt _ (by decide)
  unfold shape at h
  dsimp only at h
  generalize x.bits.toNat / Nat.pow 2 52 % Nat.pow 2 11 = biased at *
  generalize x.bits.toNat % Nat.pow 2 52 = fraction at *
  unfold packed
  split at h
  · split at h <;> cases h
  split at h
  · rename_i hzero
    cases h
    rw [if_pos hfraction, ← hzero]
    exact hbits
  · cases h
    have hbiased : ((biased : Int) - 1075 + 1075).toNat = biased := by omega
    rw [if_neg (Nat.not_lt.2 (Nat.le_add_left _ _)), hbiased, Nat.add_sub_cancel]
    exact hbits

theorem packed_zero (s : Bool) (e : Int) : packed s 0 e = zero s := if_pos (by decide)

theorem canonical_of_shape {x : Binary64} {s : Bool} {m : Nat} {e : Int} (h : x.shape = .finite s m e)
    (hm : m ≠ 0) : Canonical m e := by
  refine ⟨inFormat_of_shape h hm, fun hlt => ?_⟩
  unfold shape at h
  dsimp only at h
  split at h
  · split at h <;> cases h
  split at h
  · cases h
    rfl
  · cases h
    exact absurd hlt (Nat.not_lt.2 (Nat.le_add_left _ _))

theorem infinity_of_shape {x : Binary64} {s : Bool} (h : x.shape = .infinite s) : infinity s = x := by
  have hbits := pack_bits x
  unfold shape at h
  dsimp only at h
  generalize x.bits.toNat / Nat.pow 2 52 % Nat.pow 2 11 = biased at *
  generalize x.bits.toNat % Nat.pow 2 52 = fraction at *
  split at h
  · split at h
    · rename_i htop hzero
      cases h
      rw [infinity, ← htop, ← hzero]
      exact hbits
    · cases h
  · split at h <;> cases h

/-! ## Rounding to a natural -/

theorem roundDiv_eq {n d m : Nat} (hd : 0 < d) (hlow : 2 * (m * d) ≤ 2 * n + d) (hhigh : 2 * n ≤ 2 * (m * d) + d)
    (hodd : m % 2 = 1 → 2 * (m * d) < 2 * n + d ∧ 2 * n < 2 * (m * d) + d) : roundDiv n d = m := by
  have hsplit := Nat.div_add_mod n d
  have hrest := Nat.mod_lt n hd
  have hnear : m = n / d ∨ m = n / d + 1 := by
    have hbelow : n / d < m + 1 := (Nat.div_lt_iff_lt_mul hd).2 (by rw [Nat.add_mul]; omega)
    have habove : m - 1 ≤ n / d := (Nat.le_div_iff_mul_le hd).2 (by rw [Nat.sub_mul]; omega)
    omega
  unfold roundDiv
  dsimp only
  generalize n % d = r at *
  generalize n / d = q at *
  rw [Nat.mul_comm] at hsplit
  rcases hnear with rfl | rfl
  · split
    · rfl
    · rw [if_neg (by omega), if_pos (by omega)]
  · rw [Nat.add_mul] at *
    rw [if_neg (by omega)]
    split
    · rfl
    · rw [if_neg (by omega)]

/-! ## Scales -/

theorem scaled_den_pos (num : Nat) {den : Nat} (hden : 0 < den) (e : Int) : 0 < (scaled num den e).2 := by
  unfold scaled
  split
  · exact Nat.mul_pos hden (Nat.pow_pos (by decide))
  · exact hden

theorem scaled_ratio (num den : Nat) (e : Int) :
    ((scaled num den e).1 : ℚ) / (scaled num den e).2 = num / den / (2 : ℚ) ^ e := by
  unfold scaled
  split
  · rename_i he
    obtain ⟨k, rfl⟩ := Int.eq_ofNat_of_zero_le he
    simp only [Int.toNat_natCast, Nat.pow_eq, Nat.cast_mul, Nat.cast_pow, Nat.cast_ofNat, zpow_natCast]
    rw [div_div]
  · rename_i he
    obtain ⟨k, hk⟩ := Int.eq_ofNat_of_zero_le (show 0 ≤ -e by omega)
    rw [hk, ← Int.neg_neg e, hk]
    simp only [Int.toNat_natCast, Nat.pow_eq, Nat.cast_mul, Nat.cast_pow, Nat.cast_ofNat, zpow_natCast, zpow_neg]
    rw [div_inv_eq_mul]
    ring

/-- What is near to `m` at a scale is rounded to it. -/
theorem roundDiv_scaled {num den m : Nat} {e : Int} (hden : 0 < den)
    (hlow : ((m : ℚ) - 1 / 2) * 2 ^ e ≤ num / den) (hhigh : (num : ℚ) / den ≤ (m + 1 / 2) * 2 ^ e)
    (hodd : m % 2 = 1 → ((m : ℚ) - 1 / 2) * 2 ^ e < num / den ∧ (num : ℚ) / den < (m + 1 / 2) * 2 ^ e) :
    roundDiv (scaled num den e).1 (scaled num den e).2 = m := by
  have hd := scaled_den_pos num hden e
  have hscale := scaled_ratio num den e
  have hunit : (0 : ℚ) < 2 ^ e := by positivity
  generalize (scaled num den e).1 = n at *
  generalize (scaled num den e).2 = d at *
  have hd' : (0 : ℚ) < d := by exact_mod_cast hd
  have hvalue : (num : ℚ) / den = n / d * 2 ^ e := by
    rw [hscale, div_mul_cancel₀ _ hunit.ne']
  rw [hvalue] at hlow hhigh hodd
  simp only [mul_le_mul_iff_left₀ hunit, mul_lt_mul_iff_left₀ hunit, le_div_iff₀ hd', div_le_iff₀ hd',
    lt_div_iff₀ hd', div_lt_iff₀ hd'] at hlow hhigh hodd
  have hlow' : (2 * (m * d : Nat) : ℚ) ≤ 2 * n + d := by push_cast; linarith
  have hhigh' : (2 * n : ℚ) ≤ 2 * (m * d : Nat) + d := by push_cast; linarith
  refine roundDiv_eq hd (by exact_mod_cast hlow') (by exact_mod_cast hhigh') fun hm => ?_
  obtain ⟨hbelow, habove⟩ := hodd hm
  have hbelow' : (2 * (m * d : Nat) : ℚ) < 2 * n + d := by push_cast; linarith
  have habove' : (2 * n : ℚ) < 2 * (m * d : Nat) + d := by push_cast; linarith
  exact ⟨by exact_mod_cast hbelow', by exact_mod_cast habove'⟩

/-! ## The scale of a quotient -/

/-- The power of two at which a quotient has 53 digits before the point. -/
def lastPlace (num den : Nat) : Int :=
  let e : Int := (num.log2 : Int) - (den.log2 : Int) - 52
  if (scaled num den e).1 / (scaled num den e).2 < Nat.pow 2 52 then e - 1 else e

theorem log2_bounds {n : Nat} (hn : 0 < n) : (2 : ℚ) ^ (n.log2 : Int) ≤ n ∧ (n : ℚ) < 2 ^ ((n.log2 : Int) + 1) := by
  have hlow : 2 ^ n.log2 ≤ n := Nat.log2_self_le hn.ne'
  have hhigh : n < 2 ^ (n.log2 + 1) := Nat.lt_log2_self
  constructor
  · rw [zpow_natCast]
    exact_mod_cast hlow
  · rw [← Nat.cast_one, ← Nat.cast_add, zpow_natCast]
    exact_mod_cast hhigh

theorem quotient_bounds {num den : Nat} (hnum : 0 < num) (hden : 0 < den) {e : Int}
    (he : (num.log2 : Int) - den.log2 = e) : (2 : ℚ) ^ (e - 1) ≤ num / den ∧ (num : ℚ) / den < 2 ^ (e + 1) := by
  obtain ⟨hnumLow, hnumHigh⟩ := log2_bounds hnum
  obtain ⟨hdenLow, hdenHigh⟩ := log2_bounds hden
  have hden' : (0 : ℚ) < den := by exact_mod_cast hden
  constructor
  · rw [le_div_iff₀ hden']
    calc
      (2 : ℚ) ^ (e - 1) * den ≤ 2 ^ (e - 1) * 2 ^ ((den.log2 : Int) + 1) := by gcongr
      _ = 2 ^ (num.log2 : Int) := by
        rw [← zpow_add₀ two_ne_zero]
        congr 1
        omega
      _ ≤ num := hnumLow
  · rw [div_lt_iff₀ hden']
    calc
      (num : ℚ) < 2 ^ ((num.log2 : Int) + 1) := hnumHigh
      _ = 2 ^ (e + 1) * 2 ^ (den.log2 : Int) := by
        rw [← zpow_add₀ two_ne_zero]
        congr 1
        omega
      _ ≤ 2 ^ (e + 1) * den := by gcongr

theorem scaled_lt_iff {num den : Nat} (hden : 0 < den) (e : Int) (k : Nat) :
    (scaled num den e).1 / (scaled num den e).2 < Nat.pow 2 k ↔ (num : ℚ) / den < 2 ^ (e + k) := by
  have hd := scaled_den_pos num hden e
  have hd' : (0 : ℚ) < (scaled num den e).2 := by exact_mod_cast hd
  have hunit : (0 : ℚ) < 2 ^ e := by positivity
  rw [Nat.div_lt_iff_lt_mul hd, Int.add_comm, zpow_add₀ two_ne_zero, zpow_natCast, ← div_lt_iff₀ hunit,
    ← scaled_ratio, div_lt_iff₀ hd']
  exact_mod_cast Iff.rfl

theorem lastPlace_bounds {num den : Nat} (hnum : 0 < num) (hden : 0 < den) :
    (2 : ℚ) ^ (lastPlace num den + 52) ≤ num / den ∧ (num : ℚ) / den < 2 ^ (lastPlace num den + 53) := by
  obtain ⟨hlow, hhigh⟩ := quotient_bounds hnum hden rfl
  unfold lastPlace
  dsimp only
  generalize he : (num.log2 : Int) - (den.log2 : Int) - 52 = e
  rw [show (num.log2 : Int) - den.log2 = e + 52 by omega] at hlow hhigh
  -- whether the quotient has 52 digits before the point or 53
  have hcut := @scaled_lt_iff num den hden e 52
  split
  · rename_i hless
    constructor
    · rwa [show e - 1 + 52 = e + 52 - 1 by omega]
    · rw [show e - 1 + 53 = e + (52 : Nat) by omega]
      exact hcut.1 hless
  · rename_i hmore
    refine ⟨not_lt.1 fun hlt => hmore (hcut.2 hlt), ?_⟩
    rwa [show e + 53 = e + 52 + 1 by omega]

theorem lastPlace_le {num den : Nat} {e : Int} (hnum : 0 < num) (hden : 0 < den)
    (h : (num : ℚ) / den < 2 ^ (e + 53)) : lastPlace num den ≤ e := by
  have hlt := (zpow_lt_zpow_iff_right₀ one_lt_two).1 ((lastPlace_bounds hnum hden).1.trans_lt h)
  omega

theorem le_lastPlace {num den : Nat} {e : Int} (hnum : 0 < num) (hden : 0 < den)
    (h : (2 : ℚ) ^ (e + 52) ≤ num / den) : e ≤ lastPlace num den := by
  have hlt := (zpow_lt_zpow_iff_right₀ one_lt_two).1 (h.trans_lt (lastPlace_bounds hnum hden).2)
  omega

/-! ## Rounding to the format -/

/-- The lower end of the interval of `m * 2 ^ e`, in quarters of `2 ^ e`. -/
def lowerEnd (m : Nat) (e : Int) : Nat :=
  if m = Nat.pow 2 52 && e ≠ -1074 then 4 * m - 1 else 4 * m - 2

/-- The numbers that are rounded to `m * 2 ^ e`. -/
structure Nearest (m : Nat) (e : Int) (v : ℚ) : Prop where
  low : (lowerEnd m e : ℚ) * 2 ^ (e - 2) ≤ v
  high : v ≤ ((4 * m + 2 : Nat) : ℚ) * 2 ^ (e - 2)
  odd : m % 2 = 1 → (lowerEnd m e : ℚ) * 2 ^ (e - 2) < v ∧ v < ((4 * m + 2 : Nat) : ℚ) * 2 ^ (e - 2)

theorem ofRatio_eq_packed {s : Bool} {num den m : Nat} {place e : Int} (hnum : 0 < num)
    (hplace : max (lastPlace num den) (-1074) = place)
    (hround : (if roundDiv (scaled num den place).1 (scaled num den place).2 = Nat.pow 2 53
      then (Nat.pow 2 52, place + 1)
      else (roundDiv (scaled num den place).1 (scaled num den place).2, place)) = (m, e))
    (he : e ≤ 971) : ofRatio s num den = packed s m e := by
  have hnone : ¬ 971 < e := by omega
  unfold lastPlace at hplace
  dsimp only at hplace
  unfold ofRatio packed
  rw [if_neg hnum.ne']
  dsimp only
  rw [hplace, hround]
  dsimp only
  rw [if_neg hnone]

namespace Nearest

variable {m : Nat} {e : Int} {v : ℚ}

theorem half_below (h : Nearest m e v) (hm : 0 < m) :
    ((m : ℚ) - 1 / 2) * 2 ^ e ≤ v ∧ (m % 2 = 1 → ((m : ℚ) - 1 / 2) * 2 ^ e < v) := by
  have hend : ((4 * m - 2 : Nat) : ℚ) ≤ lowerEnd m e := by
    unfold lowerEnd
    gcongr
    split <;> omega
  have hunit : (0 : ℚ) ≤ 2 ^ (e - 2) := by positivity
  have hscaled := mul_le_mul_of_nonneg_right hend hunit
  have hhalf : ((m : ℚ) - 1 / 2) * 2 ^ e = ((4 * m - 2 : Nat) : ℚ) * 2 ^ (e - 2) := by
    rw [zpow_sub₀ two_ne_zero, Nat.cast_sub (by omega)]
    push_cast
    ring
  rw [hhalf]
  exact ⟨hscaled.trans h.low, fun hodd => hscaled.trans_lt (h.odd hodd).1⟩

theorem half_above (h : Nearest m e v) :
    v ≤ ((m : ℚ) + 1 / 2) * 2 ^ e ∧ (m % 2 = 1 → v < ((m : ℚ) + 1 / 2) * 2 ^ e) := by
  have hhalf : ((m : ℚ) + 1 / 2) * 2 ^ e = ((4 * m + 2 : Nat) : ℚ) * 2 ^ (e - 2) := by
    rw [zpow_sub₀ two_ne_zero]
    push_cast
    ring
  rw [hhalf]
  exact ⟨h.high, fun hodd => (h.odd hodd).2⟩

theorem lt_of_digits (h : Nearest m e v) (hm : m < Nat.pow 2 53) : v < 2 ^ (e + 53) := by
  have hm' : (m : ℚ) + 1 ≤ 2 ^ 53 := by exact_mod_cast hm
  have hunit : (0 : ℚ) < 2 ^ e := by positivity
  calc
    v ≤ ((m : ℚ) + 1 / 2) * 2 ^ e := h.half_above.1
    _ < 2 ^ 53 * 2 ^ e := by gcongr; linarith
    _ = 2 ^ (e + 53) := by rw [zpow_add₀ two_ne_zero, mul_comm]; norm_num

theorem le_of_pos (h : Nearest m e v) (hm : 0 < m) : 2 ^ (e - 1) ≤ v := by
  have hm' : (1 : ℚ) ≤ m := by exact_mod_cast hm
  calc
    (2 : ℚ) ^ (e - 1) = (1 - 1 / 2) * 2 ^ e := by rw [zpow_sub₀ two_ne_zero]; ring
    _ ≤ ((m : ℚ) - 1 / 2) * 2 ^ e := by gcongr
    _ ≤ v := (h.half_below hm).1

/-- Only the least significand has numbers in its interval that are below the power of two. -/
theorem least_of_lt (h : Nearest m e v) (hm : Nat.pow 2 52 ≤ m) (hlt : v < 2 ^ (e + 52)) : m = Nat.pow 2 52 := by
  by_contra hne
  have hm' : (2 ^ 52 : ℚ) + 1 ≤ m := by exact_mod_cast Nat.lt_of_le_of_ne hm (Ne.symm hne)
  have : (2 : ℚ) ^ (e + 52) ≤ v := calc
    (2 : ℚ) ^ (e + 52) = 2 ^ 52 * 2 ^ e := by rw [zpow_add₀ two_ne_zero, mul_comm]; norm_num
    _ ≤ ((m : ℚ) - 1 / 2) * 2 ^ e := by gcongr; linarith
    _ ≤ v := (h.half_below (by omega)).1
  exact absurd hlt this.not_gt

/-- The interval of a power of two reaches down by half a unit of the denser numbers there. -/
theorem quarter_below (h : Nearest (Nat.pow 2 52) e v) (he : e ≠ -1074) :
    ((Nat.pow 2 53 : Nat) - 1 / 2 : ℚ) * 2 ^ (e - 1) ≤ v := by
  have hend : lowerEnd (Nat.pow 2 52) e = 4 * Nat.pow 2 52 - 1 := if_pos (by simp [he])
  have hlow := h.low
  rw [hend] at hlow
  refine le_of_eq_of_le ?_ hlow
  rw [zpow_sub₀ two_ne_zero, zpow_sub₀ two_ne_zero]
  norm_num
  ring

end Nearest

variable {s : Bool} {m : Nat} {e : Int} {num den : Nat}

/-- Below the power of two that a number is the quotients have one more digit, which is carried. -/
theorem ofRatio_carried (hnum : 0 < num) (hden : 0 < den) (he : -1074 < e) (hhigh : e ≤ 971)
    (h : Nearest (Nat.pow 2 52) e (num / den)) (hlt : (num : ℚ) / den < 2 ^ (e + 52)) :
    ofRatio s num den = packed s (Nat.pow 2 52) e := by
  have hlow := h.quarter_below (Int.ne_of_gt he)
  have hunit : (0 : ℚ) < 2 ^ (e - 1) := by positivity
  have hsplit (k : Nat) : (2 : ℚ) ^ (e - 1 + k) = 2 ^ k * 2 ^ (e - 1) := by
    rw [zpow_add₀ two_ne_zero, zpow_natCast, mul_comm]
  have hplace : max (lastPlace num den) (-1074) = e - 1 := by
    have hle : lastPlace num den ≤ e - 1 := by
      refine lastPlace_le hnum hden ?_
      rwa [show e - 1 + 53 = e + 52 by omega]
    have hge : e - 1 ≤ lastPlace num den := by
      refine le_lastPlace hnum hden (le_trans ?_ hlow)
      rw [show e - 1 + 52 = e - 1 + (52 : Nat) from rfl, hsplit]
      gcongr
      norm_num
    omega
  have hround : roundDiv (scaled num den (e - 1)).1 (scaled num den (e - 1)).2 = Nat.pow 2 53 := by
    refine roundDiv_scaled hden hlow (hlt.le.trans ?_) fun hodd => absurd hodd (by decide)
    rw [show e + 52 = e - 1 + (53 : Nat) by omega, hsplit]
    gcongr
    norm_num
  refine ofRatio_eq_packed hnum hplace ?_ hhigh
  rw [hround, if_pos rfl, Int.sub_add_cancel]

/-- A quotient in the interval of a number is rounded to the number. -/
theorem ofRatio_nearest (hshape : Canonical m e) (hnum : 0 < num) (hden : 0 < den) (h : Nearest m e (num / den)) :
    ofRatio s num den = packed s m e := by
  have hlowest := hshape.low
  have hle : lastPlace num den ≤ e := lastPlace_le hnum hden (h.lt_of_digits hshape.lt)
  by_cases hplace : max (lastPlace num den) (-1074) = e
  · obtain ⟨hlow, hlowOdd⟩ := h.half_below hshape.pos
    obtain ⟨hhigh, hhighOdd⟩ := h.half_above
    have hround : roundDiv (scaled num den e).1 (scaled num den e).2 = m :=
      roundDiv_scaled hden hlow hhigh fun hodd => ⟨hlowOdd hodd, hhighOdd hodd⟩
    refine ofRatio_eq_packed hnum hplace ?_ hshape.high
    rw [hround, if_neg hshape.lt.ne]
  · -- the quotient has its digits at a lower power than the number: it lies under a power of two
    have hlt : (num : ℚ) / den < 2 ^ (e + 52) := not_le.1 fun hge => by
      have := le_lastPlace hnum hden hge
      omega
    have hm : Nat.pow 2 52 ≤ m := Nat.not_lt.1 fun hless => by
      have := hshape.dense hless
      omega
    obtain rfl := h.least_of_lt hm hlt
    exact ofRatio_carried hnum hden (by omega) hshape.high h hlt

/-! ## Decimals -/

theorem decimalLength_bounds {n : Nat} (hn : 0 < n) (p : Int) :
    (10 : ℚ) ^ (decimalLength n + p - 1) ≤ n * 10 ^ p ∧ (n : ℚ) * 10 ^ p < 10 ^ (decimalLength n + p) := by
  have hpos : 0 < decimalLength n := Nat.length_toDigits_pos
  have hhigh : n < 10 ^ decimalLength n := (Nat.length_toDigits_le_iff (by decide) hpos).1 (Nat.le_refl _)
  have hlow : 10 ^ (decimalLength n - 1) ≤ n := by
    rcases Nat.eq_zero_or_pos (decimalLength n - 1) with hone | hmore
    · rw [hone]
      exact hn
    · refine Nat.not_lt.1 fun hlt => ?_
      have : decimalLength n ≤ decimalLength n - 1 := (Nat.length_toDigits_le_iff (by decide) hmore).2 hlt
      omega
  have hunit : (0 : ℚ) < 10 ^ p := by positivity
  constructor
  · rw [show (decimalLength n : Int) + p - 1 = (decimalLength n - 1 : Nat) + p by omega,
      zpow_add₀ (by norm_num), zpow_natCast]
    gcongr
    exact_mod_cast hlow
  · rw [zpow_add₀ (by norm_num), zpow_natCast]
    gcongr
    exact_mod_cast hhigh

theorem two_zpow_le_ten_zpow {p q : Nat} (h : 4 * ((p + 12) / 13) ≤ q) :
    (2 : ℚ) ^ (p : Int) ≤ 10 ^ (q : Int) := by
  have hpow : 2 ^ p ≤ 10 ^ q := two_pow_le_ten_pow h
  rw [zpow_natCast, zpow_natCast]
  exact_mod_cast hpow

theorem ofDecimal_zero (s : Bool) (p : Int) : ofDecimal s 0 p = zero s := if_pos rfl

/-- A decimal in the interval of a number is read as the number. -/
theorem ofDecimal_nearest {digits : Nat} {p : Int} (hshape : Canonical m e) (hdigits : 0 < digits)
    (h : Nearest m e (digits * 10 ^ p)) : ofDecimal s digits p = packed s m e := by
  obtain ⟨hlow, hhigh⟩ := decimalLength_bounds hdigits p
  have hmost : (decimalLength digits : Int) + p ≤ 400 := by
    have hlt : (10 : ℚ) ^ ((decimalLength digits : Int) + p - 1) < 10 ^ (400 : Int) := calc
      _ ≤ (digits : ℚ) * 10 ^ p := hlow
      _ < 2 ^ (e + 53) := h.lt_of_digits hshape.lt
      _ ≤ 2 ^ (1024 : Int) := zpow_le_zpow_right₀ one_le_two (by have := hshape.high; omega)
      _ ≤ 10 ^ (400 : Int) := two_zpow_le_ten_zpow (by decide)
    have := (zpow_lt_zpow_iff_right₀ (by norm_num)).1 hlt
    omega
  have hleast : -400 ≤ (decimalLength digits : Int) + p := by
    have hlt : (10 : ℚ) ^ (-401 : Int) < 10 ^ ((decimalLength digits : Int) + p) := calc
      (10 : ℚ) ^ (-401 : Int) ≤ 2 ^ (-1075 : Int) := by
        rw [zpow_neg, zpow_neg]
        exact inv_anti₀ (by positivity) (two_zpow_le_ten_zpow (by decide))
      _ ≤ 2 ^ (e - 1) := zpow_le_zpow_right₀ one_le_two (by have := hshape.low; omega)
      _ ≤ (digits : ℚ) * 10 ^ p := h.le_of_pos hshape.pos
      _ < 10 ^ ((decimalLength digits : Int) + p) := hhigh
    have := (zpow_lt_zpow_iff_right₀ (by norm_num)).1 hlt
    omega
  -- Neither guard against far exponents applies, so the decimal is rounded as a quotient.
  unfold ofDecimal
  dsimp only
  rw [if_neg hdigits.ne', if_neg (by omega), if_neg (by omega)]
  split
  · rename_i hp
    obtain ⟨k, rfl⟩ := Int.eq_ofNat_of_zero_le hp
    refine ofRatio_nearest hshape (Nat.mul_pos hdigits (Nat.pow_pos (by decide))) Nat.one_pos ?_
    simpa using h
  · rename_i hp
    obtain ⟨k, hk⟩ := Int.eq_ofNat_of_zero_le (show 0 ≤ -p by omega)
    refine ofRatio_nearest hshape hdigits (Nat.pow_pos (by decide)) ?_
    rw [← Int.neg_neg p, hk, zpow_neg, ← div_eq_mul_inv] at h
    rw [hk]
    simpa using h

end Userscript.Binary64
