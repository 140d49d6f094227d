import Mathlib.Data.List.DropRight
import Userscript.Text.Blank

/-!
# Userscript.Proofs.Text.Lines

What is made of the lines of a text, and of blanks around it.

* `linesFrom_append`: a text without a line break is taken into the current line as a whole;
* `filterMap_linesFrom_break`: a line break, alone or as the first half of a pair, ends the line;
* `filterMap_linesFrom_skip`: what does not matter at the beginning of a line may stand there;
* `trim_append`: blanks behind a text do not show once it is trimmed.
-/

namespace Userscript.Text

/-! ## Lines -/

def OneLine (cs : List Char) : Prop := ∀ c ∈ cs, isLineBreak c = false

instance (cs : List Char) : Decidable (OneLine cs) := List.decidableBAll _ cs

theorem linesFrom_cons {done : Array String} {line rest : List Char} {c : Char} (h : isLineBreak c = false) :
    linesFrom done line (c :: rest) = linesFrom done (c :: line) rest := by
  have other : c ≠ '\r' := by
    rintro rfl
    cases h
  rw [linesFrom, h, if_neg Bool.false_ne_true]
  exact fun _ same => absurd same other

theorem linesFrom_append {done : Array String} {line cs rest : List Char} (h : OneLine cs) :
    linesFrom done line (cs ++ rest) = linesFrom done (cs.reverse ++ line) rest := by
  induction cs generalizing line with
  | nil => rfl
  | cons c cs ih =>
    obtain ⟨first, later⟩ := List.forall_mem_cons.mp h
    rw [List.cons_append, linesFrom_cons first, ih later, List.reverse_cons, List.append_assoc]
    rfl

/-- Lines that are there already stay before the others. -/
theorem linesFrom_prepend (before done : Array String) (line cs : List Char) :
    linesFrom (before ++ done) line cs = before ++ linesFrom done line cs := by
  fun_induction linesFrom done line cs with
  | case1 done line none => rw [linesFrom, if_pos none]
  | case2 done line some => rw [linesFrom, if_neg some, Array.append_push]
  | case3 done line rest ih => rw [linesFrom, ← Array.append_push, ih]
  | case4 done line c rest other ends ih =>
    rw [linesFrom, if_pos ends, ← Array.append_push, ih]
    exact other
  | case5 done line c rest other goes ih =>
    rw [linesFrom, if_neg goes, ih]
    exact other

section Reading

variable {α : Type} {f : String → Option α} {done : Array String} {line cs rest : List Char} {b c : Char}

theorem filterMap_push (s : String) :
    (done.push s).toList.filterMap f = done.toList.filterMap f ++ (f s).toList := by
  rw [Array.toList_push, List.filterMap_append]
  cases said : f s <;> simp [said]

theorem filterMap_linesFrom :
    (linesFrom done line cs).toList.filterMap f =
      done.toList.filterMap f ++ (linesFrom #[] line cs).toList.filterMap f := by
  have front := linesFrom_prepend done #[] line cs
  rw [Array.append_empty] at front
  rw [front, Array.toList_append, List.filterMap_append]

/-- A line break ends a line. It may take the next character with it, which would end an empty line. -/
theorem filterMap_linesFrom_break (none : f "" = none) (ends : isLineBreak b = true) :
    (linesFrom #[] line (b :: rest)).toList.filterMap f =
      (f (String.ofList line.reverse)).toList ++ (linesFrom #[] [] rest).toList.filterMap f := by
  have after (s : String) (more : List Char) : (linesFrom (#[].push s) [] more).toList.filterMap f =
      (f s).toList ++ (linesFrom #[] [] more).toList.filterMap f := by
    rw [filterMap_linesFrom, filterMap_push]
    rfl
  rw [linesFrom.eq_def]
  split
  · next nil => cases nil
  · next more taken =>
    -- The second half of a pair would end an empty line, of which nothing is made.
    obtain ⟨rfl, rfl⟩ := List.cons.inj taken
    have empty : linesFrom #[] [] ('\n' :: more) = linesFrom (#[].push "") [] more := by
      rw [linesFrom, if_pos (by decide)]
      · rfl
      · exact nofun
    rw [empty, after, after, none]
    rfl
  · next c more other taken =>
    obtain ⟨rfl, rfl⟩ := List.cons.inj taken
    rw [if_pos ends, after]

/-- A character that does not matter at the beginning of a line does not matter there. -/
theorem filterMap_linesFrom_skip (none : f "" = none)
    (skips : ∀ cs, f (String.ofList (c :: cs)) = f (String.ofList cs)) :
    (linesFrom done (line ++ [c]) cs).toList.filterMap f = (linesFrom done line cs).toList.filterMap f := by
  have same (line : List Char) : f (String.ofList (line ++ [c]).reverse) = f (String.ofList line.reverse) := by
    rw [List.reverse_append]
    exact skips line.reverse
  fun_induction linesFrom done line cs with
  | case1 done line empty =>
    rw [linesFrom, if_neg (by simp), filterMap_push, same, List.isEmpty_iff.mp empty, List.reverse_nil,
      String.ofList_nil, none, Option.toList_none, List.append_nil]
  | case2 done line some => rw [linesFrom, if_neg (by simp), filterMap_push, filterMap_push, same]
  | case3 done line rest ih =>
    rw [linesFrom, filterMap_linesFrom, filterMap_push, same, ← filterMap_push, ← filterMap_linesFrom]
  | case4 done line d rest other ends ih =>
    rw [linesFrom, if_pos ends, filterMap_linesFrom, filterMap_push, same, ← filterMap_push, ← filterMap_linesFrom]
    exact other
  | case5 done line d rest other goes ih =>
    rw [linesFrom, if_neg goes, ← List.cons_append, ih]
    exact other

end Reading

/-! ## Blanks -/

theorem trimRight_append {cs blanks : List Char} (h : ∀ c ∈ blanks, isBlank c = true) :
    trimRight (cs ++ blanks) = trimRight cs := by
  have back : ∀ c ∈ blanks.reverse, isBlank c = true := fun c mem => h c (List.mem_reverse.mp mem)
  rw [trimRight, trimRight, List.reverse_append, List.dropWhile_append_of_pos back]

theorem trim_append {cs blanks : List Char} (h : ∀ c ∈ blanks, isBlank c = true) :
    trim (String.ofList (cs ++ blanks)) = trim (String.ofList cs) := by
  rw [trim, trim, String.toList_ofList, String.toList_ofList, trimLeft, trimLeft, List.dropWhile_append]
  split
  · next none => rw [List.isEmpty_iff.mp none, List.dropWhile_eq_nil_iff.mpr h]
  · rw [trimRight_append h]

theorem isBlank_head_of_trim {c : Char} {cs : List Char}
    (trimmed : trim (String.ofList (c :: cs)) = String.ofList (c :: cs)) :
    isBlank c = false := by
  by_contra blank
  rw [Bool.not_eq_false] at blank
  have same : trimRight (trimLeft (c :: cs)) = c :: cs := by
    rw [trim, String.toList_ofList] at trimmed
    exact String.ofList_injective trimmed
  have shorter : (trimRight (trimLeft (c :: cs))).length ≤ cs.length := by
    rw [trimLeft, List.dropWhile_cons_of_pos blank]
    exact Nat.le_trans (List.rdropWhile_prefix isBlank _).length_le (List.dropWhile_suffix isBlank).length_le
  rw [same, List.length_cons] at shorter
  omega

end Userscript.Text
