import Mathlib.Data.List.Chain
import Userscript.Page.Style
import Userscript.Proofs.Text.Pieces

/-!
# Userscript.Proofs.Page.Style

The element of a style closes once, at its end.

* `isChain_iff_absent`: where the beginning of a closing tag stands, one of its characters follows the other;
* `absent_guarded`: a guarded style sheet holds no beginning of a closing tag;
* `closesOnce_element_iff`: so an element closes once if and only if the text of its number holds none.
-/

namespace Userscript.Page.Style

/-- What begins a closing tag stands in a text only where the element of the text is closed, at the very end. -/
structure ClosesOnce (element : String) : Prop where
  closed : ∃ front, element = front ++ "</style>"
  once : ∀ before after, element.toList = before ++ guardedMark.1.toList ++ after → after = "style>".toList

/-- Two characters that do not begin a closing tag. -/
def Apart (x y : Char) : Prop := x = '<' → y ≠ '/'

instance : DecidableRel Apart := fun x y => inferInstanceAs (Decidable (x = '<' → y ≠ '/'))

theorem isChain_iff_absent {cs : List Char} : cs.IsChain Apart ↔ ¬ guardedMark.1.toList <:+: cs := by
  rw [List.isChain_iff_forall_rel_of_append_cons_cons]
  constructor
  · rintro apart ⟨before, after, split⟩
    have split : cs = before ++ '<' :: '/' :: after := by
      rw [← split, List.append_assoc]
      rfl
    exact apart split rfl rfl
  · rintro absent x y before after split rfl rfl
    exact absent ⟨before, after, by rw [split, List.append_assoc]; rfl⟩

/-- Parts without the beginning of a closing tag have none either when they are joined by what stands for it. -/
theorem isChain_joinWith {parts : List (List Char)} (each : ∀ p ∈ parts, p.IsChain Apart) :
    (Text.joinWith guardedMark.2.toList parts).IsChain Apart := by
  induction parts with
  | nil => exact .nil
  | cons p rest ih =>
    obtain ⟨first, each⟩ := List.forall_mem_cons.mp each
    cases rest with
    | nil => exact first
    | cons q rest =>
      have mark : guardedMark.2.toList.IsChain Apart := by decide
      rw [Text.joinWith, List.append_assoc]
      · refine first.append (mark.append (ih each) ?_) ?_
        · rintro x ⟨⟩ y - ⟨⟩
        · rintro x - y ⟨⟩ rfl
          decide
      · exact nofun

theorem absent_guarded (css : String) : ¬ guardedMark.1.toList <:+: (guarded css).toList := by
  rw [← isChain_iff_absent, guarded, Text.replaceAll, String.toList_ofList, Text.replace, if_neg (by decide)]
  refine isChain_joinWith fun p mem => isChain_iff_absent.mpr ?_
  exact Text.absent_of_mem_splitAt (by decide) (Nat.lt_succ_self _) mem

/-- Behind a text without the beginning of a closing tag the only one is that of the closing tag itself. -/
theorem after_eq_of_isChain {body before after : List Char} (apart : body.IsChain Apart)
    (split : body ++ "</style>".toList = before ++ guardedMark.1.toList ++ after) : after = "style>".toList := by
  change body ++ ['<', '/', 's', 't', 'y', 'l', 'e', '>'] = before ++ ['<', '/'] ++ after at split
  rw [List.append_assoc, List.cons_append, List.singleton_append] at split
  induction body generalizing before with
  | nil =>
    cases before with
    | nil => exact (List.cons.inj (List.cons.inj split).2).2.symm
    | cons b before =>
      have again : '<' ∈ ['/', 's', 't', 'y', 'l', 'e', '>'] := by
        rw [(List.cons.inj split).2]
        exact List.mem_append_right _ List.mem_cons_self
      exact absurd again (by decide)
  | cons c body ih =>
    cases before with
    | cons b before => exact ih apart.tail (List.cons.inj split).2
    | nil =>
      obtain ⟨opens, split⟩ := List.cons.inj split
      cases body with
      | nil => cases split
      | cons d body => exact absurd (List.cons.inj split).1 ((List.isChain_cons_cons.mp apart).1 opens)

/-- The element without its closing tag. -/
def body (number css : String) : String := "<style data-usm-node=\"" ++ number ++ "\">" ++ css

theorem toList_element (number css : String) :
    (element number css).toList = (body number css).toList ++ "</style>".toList :=
  String.toList_append

theorem toList_body (number css : String) :
    (body number css).toList =
      "<style data-usm-node=\"".toList ++ number.toList ++ "\">".toList ++ css.toList := by
  change ("<style data-usm-node=\"" ++ number ++ "\">" ++ css).toList = _
  rw [String.toList_append, String.toList_append, String.toList_append]

theorem isChain_body {number css : String} (hn : number.toList.IsChain Apart) (hc : css.toList.IsChain Apart) :
    (body number css).toList.IsChain Apart := by
  have front : "<style data-usm-node=\"".toList.IsChain Apart := by decide
  have middle : "\">".toList.IsChain Apart := by decide
  have closing : ("\">".toList ++ css.toList).IsChain Apart := middle.append hc (by rintro x ⟨⟩ y - ⟨⟩)
  have rest : (number.toList ++ ("\">".toList ++ css.toList)).IsChain Apart := by
    refine hn.append closing ?_
    rintro x - y ⟨⟩ rfl
    decide
  rw [toList_body, List.append_assoc, List.append_assoc]
  exact front.append rest (by rintro x ⟨⟩ y - ⟨⟩)

theorem infix_body (number css : String) :
    number.toList <:+: (body number css).toList ∧ css.toList <:+: (body number css).toList := by
  rw [toList_body]
  exact ⟨⟨_, _, (List.append_assoc _ _ _).symm⟩, (List.suffix_append _ _).isInfix⟩

/-- An element closes once if and only if neither its number nor its sheet holds the beginning of a closing tag. -/
theorem closesOnce_element_iff {number css : String} :
    ClosesOnce (element number css) ↔
      ¬ guardedMark.1.toList <:+: number.toList ∧ ¬ guardedMark.1.toList <:+: css.toList := by
  constructor
  · intro h
    have absent : ¬ guardedMark.1.toList <:+: (body number css).toList := by
      rintro ⟨before, after, split⟩
      have more := h.once before (after ++ "</style>".toList) (by rw [toList_element, ← split, List.append_assoc])
      have longer := congrArg List.length more
      have close : "</style>".toList.length = 8 ∧ "style>".toList.length = 6 := by decide
      rw [List.length_append] at longer
      omega
    exact (infix_body number css).imp (fun h found => absent (found.trans h)) fun h found => absent (found.trans h)
  · rintro ⟨hn, hc⟩
    refine ⟨⟨_, rfl⟩, fun before after split => ?_⟩
    rw [toList_element] at split
    exact after_eq_of_isChain (isChain_body (isChain_iff_absent.mpr hn) (isChain_iff_absent.mpr hc)) split

end Userscript.Page.Style
