import Userscript.Text.Pieces

/-!
# Userscript.Proofs.Text.Pieces

What is found in texts, and what no longer is after pieces were replaced.

* `after?_eq_some_iff`, `holds_iff`: a piece is found at the start of a text, or anywhere in it, if and only if it
  stands there;
* `absent_of_mem_splitAt`: no part of a text that is cut at a separator holds the separator;
* `infix_append_cons`: a piece that does not hold a character stands on one side of it;
* `takeWhile_append`: the first part of a text is taken, if it goes as far and what follows stops there;
* `cut_unique`: there is one way to cut a text before the first of a mark.
-/

namespace Userscript.Text

variable {piece separator : List Char}

theorem after?_eq_some_iff {cs rest : List Char} : after? piece cs = some rest ↔ cs = piece ++ rest := by
  induction piece generalizing cs with
  | nil => simp [after?]
  | cons p ps ih =>
    cases cs with
    | nil => simp [after?]
    | cons c cs =>
      rw [after?, List.cons_append, List.cons.injEq, eq_comm (a := c)]
      split
      · next same => simp [same, ih]
      · next other => simp [other]

theorem isSome_after?_iff {cs : List Char} : (after? piece cs).isSome ↔ piece <+: cs := by
  simp only [Option.isSome_iff_exists, after?_eq_some_iff]
  exact exists_congr fun _ => eq_comm

theorem isSome_find?_iff {place : Nat} {cs : List Char} : (find? piece place cs).isSome ↔ piece <:+: cs := by
  induction cs generalizing place with
  | nil => cases piece <;> simp [find?]
  | cons c cs ih =>
    rw [find?, List.infix_cons_iff, ← isSome_after?_iff]
    split
    · next found => simp [found]
    · next other => simp [other, ih]

theorem holds_iff {p s : String} : holds p s = true ↔ p.toList <:+: s.toList := isSome_find?_iff

/-- What is looked for begins nowhere in the part that was passed, also where what follows would complete it. -/
def Passed (separator part cs : List Char) : Prop :=
  ∀ front back, part.reverse = front ++ back → back ≠ [] → ¬ separator <+: back ++ cs

namespace Passed

variable {part cs : List Char}

theorem absent (h : Passed separator part cs) (some : separator ≠ []) : ¬ separator <:+: part.reverse := by
  rintro ⟨front, back, split⟩
  refine h front (separator ++ back) (by rw [← split, List.append_assoc]) ?_ ?_
  · exact fun none => some (List.append_eq_nil_iff.mp none).1
  · rw [List.append_assoc]
    exact List.prefix_append _ _

theorem nil (cs : List Char) : Passed separator [] cs :=
  fun _ _ split some => absurd (List.append_eq_nil_iff.mp split.symm).2 some

/-- One more character is passed, if nothing begins at it. -/
theorem cons {c : Char} (h : Passed separator part (c :: cs)) (other : ¬ separator <+: c :: cs) :
    Passed separator (c :: part) cs := by
  intro front back split some
  rw [List.reverse_cons] at split
  obtain ⟨mid, last, rfl⟩ := List.eq_nil_or_concat back |>.resolve_left some
  rw [List.concat_eq_append] at split ⊢
  rw [← List.append_assoc] at split
  obtain ⟨before, same⟩ := List.append_inj' split rfl
  rw [← List.singleton_inj.mp same, List.append_assoc, List.singleton_append]
  cases mid with
  | nil => exact other
  | cons d mid => exact h front (d :: mid) before (List.cons_ne_nil d mid)

end Passed

theorem absent_of_mem_partsAt (some : separator ≠ []) {fuel limit : Nat} {part cs p : List Char}
    (enough : cs.length < fuel) (often : cs.length < limit) (passed : Passed separator part cs)
    (mem : p ∈ partsAt separator fuel limit part cs) : ¬ separator <:+: p := by
  induction fuel generalizing limit part cs with
  | zero => exact absurd enough (Nat.not_lt_zero _)
  | succ fuel ih =>
    obtain ⟨limit, rfl⟩ : ∃ n, limit = n + 1 := ⟨limit - 1, by omega⟩
    cases cs with
    | nil =>
      rw [partsAt, List.mem_singleton] at mem
      exact mem ▸ passed.absent some
      exact nofun
    | cons c cs =>
      rw [partsAt] at mem
      rw [List.length_cons] at enough often
      split at mem
      · next rest found =>
        -- The separator is not empty, so that less than before is left behind it.
        have shorter : rest.length < cs.length + 1 := by
          have cut := congrArg List.length (after?_eq_some_iff.mp found)
          have := List.length_pos_iff.mpr some
          rw [List.length_cons, List.length_append] at cut
          omega
        rcases List.mem_cons.mp mem with rfl | mem
        · exact passed.absent some
        · exact ih (by omega) (by omega) (.nil rest) mem
      · next other =>
        refine ih (by omega) (by omega) (passed.cons ?_) mem
        rw [← isSome_after?_iff, other]
        exact nofun

/-- No part of a text that is cut wherever a separator stands holds the separator. -/
theorem absent_of_mem_splitAt (some : separator ≠ []) {limit : Nat} {cs p : List Char}
    (often : cs.length < limit) (mem : p ∈ splitAt separator limit cs) : ¬ separator <:+: p :=
  absent_of_mem_partsAt some (by omega) often (.nil cs) mem

/-! ## Pieces without a separator -/

section Separated

variable {before after : List Char} {c : Char}

/-- A piece that begins a text ends before what it does not hold. -/
theorem prefix_of_prefix_append_cons (apart : c ∉ piece) (h : piece <+: before ++ c :: after) : piece <+: before := by
  induction before generalizing piece with
  | nil =>
    cases piece with
    | nil => exact List.nil_prefix
    | cons p ps =>
      obtain ⟨rfl, -⟩ := List.cons_prefix_cons.mp h
      exact absurd List.mem_cons_self apart
  | cons d before ih =>
    cases piece with
    | nil => exact List.nil_prefix
    | cons p ps =>
      obtain ⟨rfl, rest⟩ := List.cons_prefix_cons.mp h
      exact List.cons_prefix_cons.mpr ⟨rfl, ih (fun mem => apart (List.mem_cons_of_mem _ mem)) rest⟩

/-- A piece stands before what it does not hold, or behind it. -/
theorem infix_append_cons (apart : c ∉ piece) (h : piece <:+: before ++ c :: after) :
    piece <:+: before ∨ piece <:+: after := by
  induction before with
  | nil =>
    rcases List.infix_cons_iff.mp h with first | later
    · have none : piece <+: [] := prefix_of_prefix_append_cons apart first
      exact .inl none.isInfix
    · exact .inr later
  | cons d before ih =>
    rcases List.infix_cons_iff.mp h with first | later
    · have within : piece <+: d :: before := prefix_of_prefix_append_cons apart first
      exact .inl within.isInfix
    · exact (ih later).imp_left fun inside => inside.trans (List.suffix_cons d before).isInfix

end Separated

/-! ## The first part of a text -/

/-- What is taken of a text ends where the first part does, if that goes as far and what follows stops there. -/
theorem takeWhile_append {p : Char → Bool} {front rest : List Char} (h : ∀ c ∈ front, p c = true)
    (stop : ∀ c ∈ rest.head?, p c = false) : (front ++ rest).takeWhile p = front := by
  rw [List.takeWhile_append_of_pos h]
  cases rest with
  | nil => exact List.append_nil front
  | cons c rest =>
    rw [List.takeWhile_cons_of_neg (Bool.eq_false_iff.mp (stop c rfl)), List.append_nil]

/-- Texts are cut in one way before the first of a mark, or at their ends if there is none. -/
theorem cut_unique {mark : Char} {xs ys as bs : List Char} (hx : mark ∉ xs) (hy : mark ∉ ys)
    (ha : ∀ c ∈ as.head?, c = mark) (hb : ∀ c ∈ bs.head?, c = mark) (h : xs ++ as = ys ++ bs) :
    xs = ys ∧ as = bs := by
  have taken {front rest : List Char} (absent : mark ∉ front) (next : ∀ c ∈ rest.head?, c = mark) :
      (front ++ rest).takeWhile (fun c => decide (c ≠ mark)) = front := by
    refine takeWhile_append (fun c mem => ?_) fun c here => ?_
    · rw [decide_eq_true_eq]
      rintro rfl
      exact absent mem
    · rw [next c here]
      simp
  have same : xs = ys := by rw [← taken hx ha, h, taken hy hb]
  subst same
  exact ⟨rfl, List.append_cancel_left h⟩

end Userscript.Text
