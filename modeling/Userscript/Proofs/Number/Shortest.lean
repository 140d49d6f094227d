import Userscript.Number.Shortest

/-!
# Userscript.Proofs.Number.Shortest

The search for the shortest decimal of a number always ends with digits.

On a grid that is no coarser than half the interval of a number one of its two neighbours lies inside
(`neighbour?_isSome`). The search starts so near to the size of the number that the last of its 40 grids is that
fine (`grid_fine`).
-/

namespace Userscript.Binary64

/-- The bounds of a significand and of an exponent. -/
structure InFormat (m : Nat) (e : Int) : Prop where
  pos : 0 < m
  lt : m < Nat.pow 2 53
  low : -1074 ≤ e
  high : e ≤ 971

theorem inFormat_of_shape {x : Binary64} {s : Bool} {m : Nat} {e : Int} (h : x.shape = .finite s m e)
    (hm : m ≠ 0) : InFormat m e := by
  have hbiased : x.bits.toNat / Nat.pow 2 52 % Nat.pow 2 11 < Nat.pow 2 11 := Nat.mod_lt _ (by decide)
  have hfraction : x.bits.toNat % Nat.pow 2 52 < Nat.pow 2 52 := Nat.mod_lt _ (by decide)
  have h11 : Nat.pow 2 11 = 2048 := rfl
  have h53 : Nat.pow 2 53 = Nat.pow 2 52 + Nat.pow 2 52 := rfl
  unfold shape at h
  dsimp only at h
  generalize x.bits.toNat / Nat.pow 2 52 % Nat.pow 2 11 = biased at *
  generalize x.bits.toNat % Nat.pow 2 52 = fraction at *
  generalize Nat.pow 2 52 = scale at *
  split at h
  · split at h <;> cases h
  split at h
  · cases h
    exact ⟨by omega, by omega, by omega, by omega⟩
  · cases h
    exact ⟨by omega, by omega, by omega, by omega⟩

/-! ## One grid -/

/-- What a number is multiplied by on a grid. -/
def gridUnit (e p : Int) : Nat :=
  (if 0 ≤ e then Nat.pow 2 e.toNat else 1) * (if 0 ≤ p then 1 else Nat.pow 10 (-p).toNat)

/-- The distance of the lines of a grid. -/
def gridStep (e p : Int) : Nat :=
  (if 0 ≤ e then 1 else Nat.pow 2 (-e).toNat) * (if 0 ≤ p then Nat.pow 10 p.toNat else 1)

theorem onGrid_eq (x : Nat) (e p : Int) : onGrid x e p = (x * gridUnit e p, gridStep e p) := by
  rw [onGrid, gridUnit, gridStep, Nat.mul_assoc]

theorem gridUnit_pos (e p : Int) : 0 < gridUnit e p := by
  unfold gridUnit
  refine Nat.mul_pos ?_ ?_ <;> split
  · exact Nat.pow_pos (by decide)
  · exact Nat.one_pos
  · exact Nat.one_pos
  · exact Nat.pow_pos (by decide)

theorem gridStep_pos (e p : Int) : 0 < gridStep e p := by
  unfold gridStep
  refine Nat.mul_pos ?_ ?_ <;> split
  · exact Nat.one_pos
  · exact Nat.pow_pos (by decide)
  · exact Nat.pow_pos (by decide)
  · exact Nat.one_pos

theorem nearer?_eq_some {first second : Bool} {k r step j : Nat}
    (h : nearer? first second k r step = some j) :
    first = true ∧ j = k ∨ second = true ∧ j = k + 1 := by
  have hleft (hj : some k = some j) (hfirst : first = true) : first = true ∧ j = k ∨ second = true ∧ j = k + 1 :=
    .inl ⟨hfirst, (Option.some.inj hj).symm⟩
  have hright (hj : some (k + 1) = some j) (hsecond : second = true) :
      first = true ∧ j = k ∨ second = true ∧ j = k + 1 :=
    .inr ⟨hsecond, (Option.some.inj hj).symm⟩
  unfold nearer? at h
  split at h
  · split at h
    · exact hleft h rfl
    split at h
    · exact hright h rfl
    split at h
    · exact hleft h rfl
    · exact hright h rfl
  · exact hleft h rfl
  · exact hright h rfl
  · cases h

theorem nearer?_isSome {first second : Bool} {k r step : Nat} (h : first = true ∨ second = true) :
    (nearer? first second k r step).isSome = true := by
  unfold nearer?
  split
  · split
    · rfl
    split
    · rfl
    split <;> rfl
  · rfl
  · rfl
  · simp at h

theorem isBetween_pos {closed : Bool} {low high step k : Nat} (h : isBetween closed low high step k = true) :
    0 < k := by
  rw [isBetween, Bool.and_eq_true, decide_eq_true_eq] at h
  exact h.1

theorem isBetween_of_lt {closed : Bool} {low high step k : Nat} (hk : 0 < k) (hlow : low < k * step)
    (hhigh : k * step < high) : isBetween closed low high step k = true := by
  cases closed <;> simp [isBetween, hk, hlow, hhigh, Nat.le_of_lt]

theorem neighbour?_pos {m : Nat} {e p : Int} {k : Nat} (h : neighbour? m e p = some k) : 0 < k := by
  rcases nearer?_eq_some h with ⟨hfirst, rfl⟩ | ⟨-, rfl⟩
  · exact isBetween_pos hfirst
  · exact Nat.succ_pos _

/-- On a fine grid the number is a line, or the next line above is inside its interval. -/
theorem neighbour?_isSome {m : Nat} {e p : Int} (hm : 0 < m)
    (hfine : gridStep (e - 2) p ≤ 2 * gridUnit (e - 2) p) : (neighbour? m e p).isSome = true := by
  have hunit := gridUnit_pos (e - 2) p
  have hstep := gridStep_pos (e - 2) p
  unfold neighbour?
  simp only [onGrid_eq]
  generalize gridUnit (e - 2) p = unit at *
  generalize gridStep (e - 2) p = step at *
  have hbelow : (if (decide (m = Nat.pow 2 52) && decide (e ≠ -1074)) = true then 4 * m - 1 else 4 * m - 2) <
      4 * m := by
    split <;> omega
  have hlow := Nat.mul_lt_mul_of_pos_right hbelow hunit
  have habove : (4 * m + 2) * unit = 4 * m * unit + 2 * unit := Nat.add_mul _ _ _
  have hsize : 2 * unit ≤ 4 * m * unit := Nat.mul_le_mul_right unit (by omega)
  have hsplit := Nat.div_add_mod (4 * m * unit) step
  have hrest := Nat.mod_lt (4 * m * unit) hstep
  generalize hline : 4 * m * unit / step = k at *
  rw [Nat.mul_comm] at hsplit
  apply nearer?_isSome
  -- The line at or below the number is the number, or the next one is less than a step above it.
  rcases Nat.eq_zero_or_pos (4 * m * unit % step) with hzero | hpos
  · left
    have hk : 0 < k := by
      rw [← hline]
      exact Nat.div_pos (by omega) hstep
    exact isBetween_of_lt hk (by omega) (by omega)
  · right
    have hnext : (k + 1) * step = k * step + step := Nat.succ_mul k step
    exact isBetween_of_lt (Nat.succ_pos k) (by omega) (by omega)

/-! ## The search -/

/-- The search ends with a line that reads back. -/
theorem neighbour?_shortestFrom {m : Nat} {e : Int} {fuel : Nat} {p : Int} {j : Nat} (hj : j < fuel)
    (hfound : (neighbour? m e (p - j)).isSome = true) :
    neighbour? m e (shortestFrom m e fuel p).2 = some (shortestFrom m e fuel p).1 := by
  induction fuel generalizing p j with
  | zero => omega
  | succ fuel ih =>
    rw [shortestFrom]
    split
    · assumption
    · rename_i hnone
      cases j with
      | zero => simp [hnone] at hfound
      | succ j =>
        refine ih (by omega : j < fuel) ?_
        rwa [show p - 1 - (j : Int) = p - ((j + 1 : Nat) : Int) by omega]

theorem stripZeros_pos {fuel k : Nat} {p : Int} (hk : 0 < k) : 0 < (stripZeros fuel k p).1 := by
  induction fuel generalizing k p with
  | zero => exact hk
  | succ fuel ih =>
    rw [stripZeros]
    split
    · rename_i hzero
      exact ih (by simp at hzero; omega)
    · exact hk

/-- Powers of ten below powers of two, by the three that are `1000 < 1024`. -/
theorem ten_pow_le_two_pow {p q : Nat} (h : 10 * ((p + 2) / 3) ≤ q) : Nat.pow 10 p ≤ Nat.pow 2 q := by
  calc
    10 ^ p ≤ 10 ^ (3 * ((p + 2) / 3)) := Nat.pow_le_pow_right (by decide) (by omega)
    _ = (10 ^ 3) ^ ((p + 2) / 3) := Nat.pow_mul 10 3 _
    _ ≤ (2 ^ 10) ^ ((p + 2) / 3) := Nat.pow_le_pow_left (by decide) _
    _ = 2 ^ (10 * ((p + 2) / 3)) := (Nat.pow_mul 2 10 _).symm
    _ ≤ 2 ^ q := Nat.pow_le_pow_right (by decide) h

/-- Powers of two below powers of ten, by the thirteen that are `8192 < 10000`. -/
theorem two_pow_le_ten_pow {p q : Nat} (h : 4 * ((p + 12) / 13) ≤ q) : Nat.pow 2 p ≤ Nat.pow 10 q := by
  calc
    2 ^ p ≤ 2 ^ (13 * ((p + 12) / 13)) := Nat.pow_le_pow_right (by decide) (by omega)
    _ = (2 ^ 13) ^ ((p + 12) / 13) := Nat.pow_mul 2 13 _
    _ ≤ (10 ^ 4) ^ ((p + 12) / 13) := Nat.pow_le_pow_left (by decide) _
    _ = 10 ^ (4 * ((p + 12) / 13)) := (Nat.pow_mul 10 4 _).symm
    _ ≤ 10 ^ q := Nat.pow_le_pow_right (by decide) h

/-- The last grid of the search is fine enough. -/
theorem grid_fine {m : Nat} {e : Int} (h : InFormat m e) :
    gridStep (e - 2) (((m.log2 : Int) + 1 + e) * 30103 / 100000 + 1 - (39 : Nat)) ≤
      2 * gridUnit (e - 2) (((m.log2 : Int) + 1 + e) * 30103 / 100000 + 1 - (39 : Nat)) := by
  have hlog : m.log2 < 53 := (Nat.log2_lt (Nat.ne_of_gt h.pos)).2 h.lt
  have hlow := h.low
  have hhigh := h.high
  generalize hp : ((m.log2 : Int) + 1 + e) * 30103 / 100000 + 1 - (39 : Nat) = p
  have hbound : p ≤ (53 + e) * 30103 / 100000 - 38 := by omega
  unfold gridStep gridUnit
  by_cases he : 0 ≤ e - 2 <;> by_cases hp' : 0 ≤ p
  · rw [if_pos he, if_pos hp', if_pos he, if_pos hp', Nat.one_mul, Nat.mul_one]
    have hpow : 10 ^ p.toNat ≤ 2 ^ ((e - 2).toNat + 1) := ten_pow_le_two_pow (by omega)
    rwa [Nat.pow_succ, Nat.mul_comm (2 ^ _)] at hpow
  · rw [if_pos he, if_neg hp', if_pos he, if_neg hp', Nat.mul_one]
    exact Nat.mul_pos (by decide) (Nat.mul_pos (Nat.pow_pos (by decide)) (Nat.pow_pos (by decide)))
  · omega
  · rw [if_neg he, if_neg hp', if_neg he, if_neg hp', Nat.mul_one, Nat.one_mul]
    have hpow := @two_pow_le_ten_pow (-(e - 2)).toNat (-p).toNat (by omega)
    exact Nat.le_trans hpow (Nat.le_mul_of_pos_left _ (by decide))

/-- The digits are those of a line that reads back, less the zeros that end them. -/
theorem exists_shortest {m : Nat} {e : Int} (h : InFormat m e) :
    ∃ k p, neighbour? m e p = some k ∧ shortest m e = stripZeros 20 k p := by
  have hlast : 39 < 40 := by omega
  exact ⟨_, _, neighbour?_shortestFrom hlast (neighbour?_isSome h.pos (grid_fine h)), rfl⟩

theorem shortest_pos {m : Nat} {e : Int} (h : InFormat m e) : 0 < (shortest m e).1 := by
  obtain ⟨k, p, hfound, hdigits⟩ := exists_shortest h
  rw [hdigits]
  exact stripZeros_pos (neighbour?_pos hfound)

end Userscript.Binary64
