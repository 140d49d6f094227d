import Userscript.Glob

/-!
# Userscript.Proofs.Glob.Search

The search of `Glob.hits` finds exactly the texts of a pattern's language.

* `Covers pattern text` says the language of a pattern without cutting it by a function: the pattern
  falls at its stars into pieces, and the text is these pieces with any run of characters for each
  star.
* `inOrder_iff_language`: taking each middle piece at its leftmost place loses no match, since an
  earlier place leaves more of the text for the pieces that follow.
* `hits_iff_language`, `hits_pieces_iff_covers`: the verdict is membership.
-/

namespace Userscript.Glob

/-! ## Places of a piece -/

theorem afterStart?_eq_some_iff {piece text rest : List Char} :
    afterStart? piece text = some rest ↔ text = piece ++ rest := by
  induction piece generalizing text with
  | nil => simp [afterStart?]
  | cons p ps ih =>
    cases text with
    | nil => simp [afterStart?]
    | cons c cs =>
      by_cases h : p = c
      · simp [afterStart?, h, ih]
      · simp [afterStart?, h, Ne.symm h]

theorem beforeEnd?_eq_some_iff {piece text front : List Char} :
    beforeEnd? piece text = some front ↔ text = front ++ piece := by
  simp only [beforeEnd?, Option.map_eq_some_iff, afterStart?_eq_some_iff]
  constructor
  · rintro ⟨rest, h, rfl⟩
    rw [← List.reverse_reverse text, h]
    simp
  · rintro rfl
    exact ⟨front.reverse, by simp, by simp⟩

/-- What is found is an occurrence. -/
theorem afterFirst?_sound {piece text rest : List Char} (h : afterFirst? piece text = some rest) :
    ∃ before, text = before ++ piece ++ rest := by
  induction text with
  | nil => exact ⟨[], by simpa using afterStart?_eq_some_iff.1 h⟩
  | cons c cs ih =>
    simp only [afterFirst?] at h
    split at h
    · rename_i found hs
      cases h
      exact ⟨[], by simpa using afterStart?_eq_some_iff.1 hs⟩
    · obtain ⟨before, hb⟩ := ih h
      exact ⟨c :: before, by simp [hb]⟩

/-- Where there is an occurrence one is found, and none leaves more of the text. -/
theorem afterFirst?_leftmost {piece text before rest : List Char}
    (h : text = before ++ piece ++ rest) :
    ∃ more, afterFirst? piece text = some (more ++ rest) := by
  induction text generalizing before with
  | nil =>
    obtain ⟨rfl, rfl, rfl⟩ : before = [] ∧ piece = [] ∧ rest = [] := by simpa using h.symm
    exact ⟨[], rfl⟩
  | cons c cs ih =>
    simp only [afterFirst?]
    cases hs : afterStart? piece (c :: cs) with
    | some found =>
      -- The piece starts here, so what was given as an occurrence lies no further left.
      have hf : piece ++ found = before ++ piece ++ rest := by
        rw [← h, afterStart?_eq_some_iff.1 hs]
      have hlen : rest.length ≤ found.length := by
        have := congrArg List.length hf
        simp only [List.length_append] at this
        omega
      have hsuffix : rest <:+ found :=
        List.suffix_of_suffix_length_le ⟨before ++ piece, rfl⟩ ⟨piece, hf⟩ hlen
      obtain ⟨more, hm⟩ := hsuffix
      exact ⟨more, by rw [hm]⟩
    | none =>
      cases before with
      | nil =>
        have : afterStart? piece (c :: cs) = some rest :=
          afterStart?_eq_some_iff.2 (by simpa using h)
        rw [hs] at this
        cases this
      | cons b bs =>
        have hcs : cs = bs ++ piece ++ rest := by simpa using (List.cons.inj h).2
        exact ih hcs

/-! ## The language of pieces -/

theorem language_cons_iff {p : List Char} {ps : List (List Char)} (hps : ps ≠ [])
    {text : List Char} :
    Language (p :: ps) text ↔ ∃ gap rest, text = p ++ gap ++ rest ∧ Language ps rest := by
  constructor
  · intro h
    cases h with
    | last => exact absurd rfl hps
    | star gap hrest => exact ⟨gap, _, rfl, hrest⟩
  · rintro ⟨gap, rest, rfl, hrest⟩
    exact .star gap hrest

theorem language_singleton_iff {p text : List Char} : Language [p] text ↔ text = p := by
  constructor
  · intro h
    cases h with
    | last => rfl
    | star gap hrest => cases hrest
  · rintro rfl
    exact .last _

/-- First and last piece frame what the pieces between have to themselves. -/
theorem language_frame {first last : List Char} {middle : List (List Char)} {text : List Char} :
    Language (first :: (middle ++ [last])) text ↔
      ∃ inner, text = first ++ inner ++ last ∧ Language ([] :: (middle ++ [[]])) inner := by
  -- On the pieces between: the first of them passes from the frame to what is framed, with its gap.
  induction middle generalizing first last text with
  | nil =>
    simp only [List.nil_append, language_cons_iff (List.cons_ne_nil _ _), language_singleton_iff]
    constructor
    · rintro ⟨gap, rest, rfl, rfl⟩
      exact ⟨gap, rfl, gap, [], by simp, rfl⟩
    · rintro ⟨inner, rfl, -⟩
      exact ⟨inner, last, rfl, rfl⟩
  | cons p ps ih =>
    simp only [List.cons_append, language_cons_iff (List.cons_ne_nil _ _)]
    constructor
    · rintro ⟨gap, rest, rfl, hrest⟩
      obtain ⟨inner, rfl, hinner⟩ := ih.1 hrest
      exact ⟨gap ++ (p ++ inner), by simp, gap, p ++ inner, by simp,
        ih.2 ⟨inner, by simp, hinner⟩⟩
    · rintro ⟨inner, rfl, gap, rest, rfl, hrest⟩
      obtain ⟨inner', rfl, hinner'⟩ := ih.1 hrest
      exact ⟨gap, p ++ inner' ++ last, by simp, ih.2 ⟨inner', rfl, hinner'⟩⟩

/-- The exchange argument: any way to place the pieces can be turned, from the left on, into the one
that takes each at its leftmost place. -/
theorem inOrder_iff_language {ps : List (List Char)} {text : List Char} :
    inOrder ps text = true ↔ Language ([] :: (ps ++ [[]])) text := by
  induction ps generalizing text with
  | nil =>
    simp only [inOrder, true_iff, List.nil_append]
    exact (language_cons_iff (List.cons_ne_nil _ _)).2 ⟨text, [], by simp, .last []⟩
  | cons p ps ih =>
    have hps : ps ++ [[]] ≠ [] := by simp
    constructor
    · intro h
      simp only [inOrder] at h
      split at h
      · rename_i rest hfound
        obtain ⟨before, rfl⟩ := afterFirst?_sound hfound
        obtain ⟨gap, tail, rfl, htail⟩ := (language_cons_iff hps).1 (ih.1 h)
        refine (language_cons_iff (List.cons_ne_nil _ _)).2
          ⟨before, p ++ gap ++ tail, by simp, (language_cons_iff hps).2 ⟨gap, tail, rfl, htail⟩⟩
      · cases h
    · intro h
      obtain ⟨before, rest, rfl, hrest⟩ := (language_cons_iff (List.cons_ne_nil _ _)).1 h
      obtain ⟨gap, tail, rfl, htail⟩ := (language_cons_iff hps).1 hrest
      have hplace : [] ++ before ++ (p ++ gap ++ tail) = before ++ p ++ (gap ++ tail) := by simp
      -- The leftmost place leaves more text, which the gap before the next piece takes up.
      obtain ⟨more, hfound⟩ := afterFirst?_leftmost hplace
      simp only [inOrder, hfound]
      exact ih.2 ((language_cons_iff hps).2 ⟨more ++ gap, tail, by simp, htail⟩)

/-- The search accepts exactly the texts that the pieces stand for. -/
theorem hits_iff_language {ps : List (List Char)} {text : List Char} :
    hits ps text = true ↔ Language ps text := by
  match ps with
  | [] =>
    simp only [hits, Bool.false_eq_true, false_iff]
    intro h
    cases h
  | [only] => simp [hits, language_singleton_iff]
  | first :: second :: more =>
    have hsplit : second :: more = (second :: more).dropLast ++ [(second :: more).getLastD []] := by
      rw [List.getLastD_cons, ← List.getLast_eq_getLastD (List.cons_ne_nil _ _)]
      exact (List.dropLast_concat_getLast (List.cons_ne_nil _ _)).symm
    rw [hsplit, language_frame, ← hsplit]
    simp only [hits]
    constructor
    · intro h
      split at h
      · cases h
      · rename_i rest hstart
        split at h
        · cases h
        · rename_i middle hend
          refine ⟨middle, ?_, inOrder_iff_language.1 h⟩
          rw [afterStart?_eq_some_iff.1 hstart, beforeEnd?_eq_some_iff.1 hend, List.append_assoc]
    · rintro ⟨inner, rfl, hinner⟩
      have hstart : afterStart? first (first ++ inner ++ (second :: more).getLastD []) =
          some (inner ++ (second :: more).getLastD []) :=
        afterStart?_eq_some_iff.2 (by simp)
      have hend : beforeEnd? ((second :: more).getLastD [])
          (inner ++ (second :: more).getLastD []) = some inner :=
        beforeEnd?_eq_some_iff.2 rfl
      simp only [hstart, hend]
      exact inOrder_iff_language.2 hinner

/-! ## The language of a pattern -/

/-- Whether a text is in the language of a pattern: the pattern is a first piece and, behind each
star, a further one; the text has any run of characters for the star. -/
def Covers (pattern text : List Char) : Prop :=
  ∃ (first : List Char) (more : List (List Char × List Char)),
    '*' ∉ first ∧ (∀ e ∈ more, '*' ∉ e.2) ∧
    pattern = first ++ more.flatMap (fun e => '*' :: e.2) ∧
    text = first ++ more.flatMap (fun e => e.1 ++ e.2)

theorem pieces_append {piece : List Char} (h : '*' ∉ piece) {rest p : List Char}
    {ps : List (List Char)} (hrest : pieces rest = p :: ps) :
    pieces (piece ++ rest) = (piece ++ p) :: ps := by
  induction piece with
  | nil => exact hrest
  | cons c cs ih =>
    obtain ⟨hc, hcs⟩ : c ≠ '*' ∧ '*' ∉ cs := by simpa [eq_comm] using h
    simp [pieces, hc, ih hcs]

/-- Cutting undoes putting together. -/
theorem pieces_joined {first : List Char} (h : '*' ∉ first) {ps : List (List Char)}
    (hps : ∀ p ∈ ps, '*' ∉ p) : pieces (first ++ ps.flatMap ('*' :: ·)) = first :: ps := by
  induction ps generalizing first with
  | nil =>
    have hrest : pieces [] = [[]] := rfl
    simpa using pieces_append h hrest
  | cons p ps ih =>
    obtain ⟨hp, hps⟩ : '*' ∉ p ∧ ∀ q ∈ ps, '*' ∉ q := by simpa using hps
    have hrest : pieces ('*' :: (p ++ ps.flatMap ('*' :: ·))) = [] :: p :: ps := by
      simp [pieces, ih hp hps]
    simpa using pieces_append h hrest

/-- Every pattern falls into pieces at its stars. -/
theorem exists_pieces (pattern : List Char) :
    ∃ (first : List Char) (ps : List (List Char)),
      '*' ∉ first ∧ (∀ p ∈ ps, '*' ∉ p) ∧ pattern = first ++ ps.flatMap ('*' :: ·) := by
  induction pattern with
  | nil => exact ⟨[], [], by simp, by simp, rfl⟩
  | cons c cs ih =>
    obtain ⟨first, ps, hfirst, hps, rfl⟩ := ih
    by_cases hc : c = '*'
    · subst hc
      refine ⟨[], first :: ps, by simp, ?_, by simp⟩
      intro p hp
      rcases List.mem_cons.1 hp with rfl | hp
      · exact hfirst
      · exact hps p hp
    · exact ⟨c :: first, ps, by simpa [Ne.symm hc] using hfirst, hps, rfl⟩

/-- A text of the language names the run of characters for each star. -/
theorem language_iff_exists_gaps {first : List Char} {ps : List (List Char)} {text : List Char} :
    Language (first :: ps) text ↔
      ∃ more : List (List Char × List Char),
        more.map (·.2) = ps ∧ text = first ++ more.flatMap (fun e => e.1 ++ e.2) := by
  induction ps generalizing first text with
  | nil =>
    rw [language_singleton_iff]
    constructor
    · rintro rfl
      exact ⟨[], rfl, by simp⟩
    · rintro ⟨more, hmore, rfl⟩
      rw [List.map_eq_nil_iff.1 hmore]
      simp
  | cons p ps ih =>
    rw [language_cons_iff (List.cons_ne_nil _ _)]
    constructor
    · rintro ⟨gap, rest, rfl, hrest⟩
      obtain ⟨more, rfl, rfl⟩ := ih.1 hrest
      exact ⟨(gap, p) :: more, rfl, by simp⟩
    · rintro ⟨more, hmore, rfl⟩
      obtain ⟨⟨gap, q⟩, more, rfl, rfl, rfl⟩ := List.map_eq_cons_iff.1 hmore
      exact ⟨gap, q ++ more.flatMap (fun e => e.1 ++ e.2), by simp, ih.2 ⟨more, rfl, rfl⟩⟩

/-- The search on the pieces of a pattern accepts exactly the texts of its language. -/
theorem hits_pieces_iff_covers {pattern text : List Char} :
    hits (pieces pattern) text = true ↔ Covers pattern text := by
  rw [hits_iff_language]
  constructor
  · intro h
    obtain ⟨first, ps, hfirst, hps, rfl⟩ := exists_pieces pattern
    rw [pieces_joined hfirst hps] at h
    obtain ⟨more, rfl, rfl⟩ := language_iff_exists_gaps.1 h
    refine ⟨first, more, hfirst, ?_, by simp [List.flatMap_map], rfl⟩
    intro e he
    exact hps e.2 (List.mem_map_of_mem he)
  · rintro ⟨first, more, hfirst, hmore, rfl, rfl⟩
    have hps : ∀ p ∈ more.map (·.2), '*' ∉ p := by
      intro p hp
      obtain ⟨e, he, rfl⟩ := List.mem_map.1 hp
      exact hmore e he
    have hpieces := pieces_joined hfirst hps
    rw [List.flatMap_map] at hpieces
    rw [hpieces]
    exact language_iff_exists_gaps.2 ⟨more, rfl, rfl⟩

end Userscript.Glob
