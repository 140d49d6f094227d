import Mathlib.Data.List.TakeWhile
import Userscript.Page.Document
import Userscript.Proofs.Page.Style

/-!
# Userscript.Proofs.Page.Insertion

Styles and badge are put in at places of the markup as it was.

The place of the badge is looked for when the styles are in already. Style elements close nothing but themselves,
and where they are put in no tag is broken and none is made, so the first closing tag of a body is still the same.

* `ClosingTag` says what begins with a closing tag; `closing?_eq_some_iff`: the search finds the first one;
* `closingTag_drop_insert`: where closing tags begin when an element that is `Inert` was put in;
* `badgePlace_insert`: the place of the badge moves by the styles in front of it, and that is all;
* `render_inserts_twice`: so the markup has two fragments more, at places that are read off the markup as it was.
-/

namespace Userscript.Page

variable {name cs X S Y : List Char}

/-! ## Closing tags -/

/-- A text that begins with a closing tag: the name stands in any letter case, and there may be white space behind
it. -/
def ClosingTag (name cs : List Char) : Prop :=
  ∃ word blanks after, cs = '<' :: '/' :: (word ++ (blanks ++ '>' :: after)) ∧ word.map Char.toLower = name ∧
    ∀ c ∈ blanks, Text.isBlank c = true

/-- The first place of a text where a closing tag begins. -/
def IsFirstClosing (name cs : List Char) (place : Nat) : Prop :=
  ClosingTag name (cs.drop place) ∧ ∀ i < place, ¬ ClosingTag name (cs.drop i)

/-- A text without a closing tag. -/
def NoClosing (name cs : List Char) : Prop := ∀ i, ¬ ClosingTag name (cs.drop i)

theorem afterName?_eq_some_iff {rest : List Char} :
    afterName? name cs = some rest ↔ ∃ word, cs = word ++ rest ∧ word.map Char.toLower = name := by
  induction name generalizing cs with
  | nil => simp [afterName?]
  | cons n ns ih =>
    cases cs with
    | nil => simp [afterName?]
    | cons c cs =>
      rw [afterName?]
      split
      · next same =>
        rw [ih]
        constructor
        · rintro ⟨word, rfl, rfl⟩
          exact ⟨c :: word, rfl, by rw [List.map_cons, same]⟩
        · rintro ⟨_ | ⟨d, word⟩, split, lower⟩
          · cases lower
          · exact ⟨word, (List.cons.inj split).2, (List.cons.inj lower).2⟩
      · next other =>
        refine ⟨nofun, ?_⟩
        rintro ⟨_ | ⟨d, word⟩, split, lower⟩
        · cases lower
        · rw [(List.cons.inj split).1] at other
          exact absurd (List.cons.inj lower).1 other

theorem head?_dropWhile_isBlank_iff :
    (cs.dropWhile Text.isBlank).head? = some '>' ↔
      ∃ blanks after, cs = blanks ++ '>' :: after ∧ ∀ c ∈ blanks, Text.isBlank c = true := by
  constructor
  · intro found
    obtain ⟨after, rest⟩ := List.head?_eq_some_iff.mp found
    refine ⟨cs.takeWhile Text.isBlank, after, ?_, fun c => List.mem_takeWhile_imp⟩
    rw [← rest, List.takeWhile_append_dropWhile]
  · rintro ⟨blanks, after, rfl, blank⟩
    rw [List.dropWhile_append_of_pos blank, List.dropWhile_cons_of_neg (by decide)]
    rfl

theorem closesAt_iff : closesAt name cs = true ↔ ClosingTag name cs := by
  unfold closesAt
  split
  · next rest =>
    constructor
    · intro found
      split at found
      · next behind named =>
        obtain ⟨word, rfl, lower⟩ := afterName?_eq_some_iff.mp named
        obtain ⟨blanks, after, rfl, blank⟩ := head?_dropWhile_isBlank_iff.mp (of_decide_eq_true found)
        exact ⟨word, blanks, after, rfl, lower, blank⟩
      · cases found
    · rintro ⟨word, blanks, after, tag, lower, blank⟩
      obtain rfl : rest = word ++ (blanks ++ '>' :: after) := (List.cons.inj (List.cons.inj tag).2).2
      rw [afterName?_eq_some_iff.mpr ⟨word, rfl, lower⟩]
      exact decide_eq_true (head?_dropWhile_isBlank_iff.mpr ⟨blanks, after, rfl, blank⟩)
  · next other =>
    refine ⟨nofun, ?_⟩
    rintro ⟨word, blanks, after, rfl, -⟩
    exact absurd rfl (other _)

/-! ## The search -/

theorem closingFrom?_eq_map (place : Nat) :
    closingFrom? name place cs = (closingFrom? name 0 cs).map (· + place) := by
  induction cs generalizing place with
  | nil => rfl
  | cons c cs ih =>
    rw [closingFrom?, closingFrom?]
    split
    · rw [Option.map_some, Nat.zero_add]
    · rw [ih (place + 1), ih (0 + 1), Option.map_map]
      refine congrArg (Option.map · _) (funext fun i => ?_)
      change i + (place + 1) = i + (0 + 1) + place
      omega

theorem isFirstClosing_zero_iff : IsFirstClosing name cs 0 ↔ ClosingTag name cs := by
  simp [IsFirstClosing]

theorem isFirstClosing_succ_iff {c : Char} {i : Nat} :
    IsFirstClosing name (c :: cs) (i + 1) ↔ ¬ ClosingTag name (c :: cs) ∧ IsFirstClosing name cs i := by
  constructor
  · rintro ⟨tag, before⟩
    exact ⟨before 0 (Nat.succ_pos i), tag, fun j less => before (j + 1) (Nat.succ_lt_succ less)⟩
  · rintro ⟨first, tag, before⟩
    refine ⟨tag, fun j less => ?_⟩
    cases j with
    | zero => exact first
    | succ j => exact before j (Nat.lt_of_succ_lt_succ less)

theorem not_closingTag_nil : ¬ ClosingTag name [] := by
  rintro ⟨word, blanks, after, tag, -⟩
  cases tag

theorem closingFrom?_eq_some_iff {place : Nat} :
    closingFrom? name 0 cs = some place ↔ IsFirstClosing name cs place := by
  -- On the text: a tag at its start is the first one, and else the first of the rest is, one place on.
  induction cs generalizing place with
  | nil =>
    refine ⟨nofun, fun first => absurd first.1 ?_⟩
    rw [List.drop_nil]
    exact not_closingTag_nil
  | cons c cs ih =>
    rw [closingFrom?, closingFrom?_eq_map (0 + 1)]
    split
    · next tag =>
      have tag := closesAt_iff.mp tag
      cases place with
      | zero => exact ⟨fun _ => isFirstClosing_zero_iff.mpr tag, fun _ => rfl⟩
      | succ i => exact ⟨nofun, fun first => absurd tag (isFirstClosing_succ_iff.mp first).1⟩
    · next other =>
      have other : ¬ ClosingTag name (c :: cs) := fun tag => other (closesAt_iff.mpr tag)
      rw [Option.map_eq_some_iff]
      cases place with
      | zero => exact ⟨fun ⟨_, _, zero⟩ => absurd zero (by omega), fun first => absurd first.1 other⟩
      | succ i =>
        rw [isFirstClosing_succ_iff]
        constructor
        · rintro ⟨j, found, same⟩
          obtain rfl : j = i := by omega
          exact ⟨other, ih.mp found⟩
        · rintro ⟨-, first⟩
          exact ⟨i, ih.mpr first, rfl⟩

theorem closing?_eq_some_iff {tag : String} {place : Nat} :
    closing? tag cs = some place ↔ IsFirstClosing tag.toList cs place := closingFrom?_eq_some_iff

theorem exists_isFirstClosing {i : Nat} (tag : ClosingTag name (cs.drop i)) : ∃ place, IsFirstClosing name cs place := by
  induction i using Nat.strongRecOn with
  | ind i ih =>
    by_cases earlier : ∃ j < i, ClosingTag name (cs.drop j)
    · obtain ⟨j, less, tag⟩ := earlier
      exact ih j less tag
    · exact ⟨i, tag, fun j less tag => earlier ⟨j, less, tag⟩⟩

theorem closing?_eq_none_iff {tag : String} : closing? tag cs = none ↔ NoClosing tag.toList cs := by
  rw [Option.eq_none_iff_forall_ne_some]
  constructor
  · intro none i closes
    obtain ⟨place, first⟩ := exists_isFirstClosing closes
    exact none place (closing?_eq_some_iff.mpr first)
  · intro none place found
    exact none place (closing?_eq_some_iff.mp found).1

theorem IsFirstClosing.lt_length {place : Nat} (first : IsFirstClosing name cs place) : place < cs.length := by
  by_contra beyond
  have := first.1
  rw [List.drop_eq_nil_of_le (Nat.le_of_not_lt beyond)] at this
  exact not_closingTag_nil this

/-! ## What is put in -/

/-- A piece of markup that is put in without a trace: it begins and ends with a tag, and closes style elements only. -/
structure Inert (S : List Char) : Prop where
  opens : ∃ rest, S = '<' :: rest
  ends : ∃ front, S = front ++ ['>']
  closes : ∀ before after, S = before ++ '<' :: '/' :: after → "style>".toList <+: after

/-- The names of elements that are not taken for a style element. -/
def IsPlainName (name : List Char) : Prop := ∃ n rest, name = n :: rest ∧ n ≠ 's' ∧ '<' ∉ name

/-- The only character of a closing tag that begins a tag is the first one. -/
theorem not_mem_behind {word blanks : List Char} (plain : '<' ∉ word.map Char.toLower)
    (blank : ∀ c ∈ blanks, Text.isBlank c = true) : '<' ∉ '/' :: (word ++ (blanks ++ ['>'])) := by
  have notWord : '<' ∉ word := fun mem => plain (List.mem_map.mpr ⟨'<', mem, by decide⟩)
  have notBlank : '<' ∉ blanks := fun mem => absurd (blank _ mem) (by decide)
  simp [notWord, notBlank]

/-- A closing tag ends in front of the next tag. -/
theorem closingTag_append_iff (plain : '<' ∉ name) (some : X ≠ []) :
    ClosingTag name (X ++ '<' :: Y) ↔ ClosingTag name X := by
  constructor
  · rintro ⟨word, blanks, after, tag, rfl, blank⟩
    have closed {rest : List Char} (split : X = '<' :: '/' :: (word ++ (blanks ++ ['>'])) ++ rest) :
        ClosingTag (word.map Char.toLower) X :=
      ⟨word, blanks, rest, by simp [split], rfl, blank⟩
    have split : X ++ '<' :: Y = '<' :: '/' :: (word ++ (blanks ++ ['>'])) ++ after := by simp [tag]
    obtain ⟨more, whole, next⟩ | ⟨rest, whole, -⟩ := List.append_eq_append_iff.mp split
    · cases more with
      | nil => exact closed (by rw [whole, List.append_nil, List.append_nil])
      | cons c more =>
        -- The next tag would begin inside the closing tag.
        obtain ⟨x, X, rfl⟩ := List.exists_cons_of_ne_nil some
        obtain ⟨rfl, -⟩ := List.cons.inj next
        have inside := (List.cons.inj whole).2
        refine absurd ?_ (not_mem_behind plain blank)
        rw [inside]
        exact List.mem_append_right _ List.mem_cons_self
    · exact closed whole
  · rintro ⟨word, blanks, after, rfl, lower, blank⟩
    exact ⟨word, blanks, after ++ '<' :: Y, by simp, lower, blank⟩

/-- No closing tag of another element begins in a piece that is inert. -/
theorem Inert.not_closingTag (inert : Inert S) (plain : IsPlainName name) {i : Nat} (inside : i < S.length) :
    ¬ ClosingTag name (S.drop i ++ Y) := by
  rintro ⟨word, blanks, after, tag, lower, -⟩
  obtain ⟨n, rest, rfl, other, -⟩ := plain
  obtain ⟨w, word, rfl⟩ := List.exists_cons_of_ne_nil (l := word) (by rintro rfl; cases lower)
  have split := List.take_append_drop i S
  cases drop : S.drop i with
  | nil => exact absurd (List.drop_eq_nil_iff.mp drop) (by omega)
  | cons c behind =>
    rw [drop] at split
    rw [drop, List.cons_append] at tag
    obtain ⟨rfl, second⟩ := List.cons.inj tag
    cases behind with
    | nil =>
      obtain ⟨front, ends⟩ := inert.ends
      rw [ends] at split
      cases List.append_inj_right' split rfl
    | cons d behind =>
      obtain ⟨rfl, third⟩ := List.cons.inj second
      obtain ⟨more, rfl⟩ := inert.closes _ _ split.symm
      obtain ⟨rfl, -⟩ := List.cons.inj third
      exact other (List.cons.inj lower).1.symm

/-- Where closing tags begin when a piece is put in at the start or in front of a tag: where they began, moved by the
piece if that is behind it. -/
theorem closingTag_drop_insert (inert : Inert S) (plain : IsPlainName name) (next : X = [] ∨ ∃ rest, Y = '<' :: rest)
    (i : Nat) :
    ClosingTag name ((X ++ S ++ Y).drop i) ↔
      i < X.length ∧ ClosingTag name ((X ++ Y).drop i) ∨
      X.length + S.length ≤ i ∧ ClosingTag name ((X ++ Y).drop (i - S.length)) := by
  rw [List.append_assoc, List.drop_append, List.drop_append, List.drop_append, List.drop_append]
  -- By where `i` is: before the piece, inside it, where nothing closes, or behind it.
  obtain before | behind := Nat.lt_or_ge i X.length
  · obtain rfl | ⟨rest, rfl⟩ := next
    · exact absurd before (Nat.not_lt_zero i)
    · obtain ⟨first, rfl⟩ := inert.opens
      obtain ⟨-, -, -, -, noTag⟩ := plain
      have some : X.drop i ≠ [] := fun none => absurd (List.drop_eq_nil_iff.mp none) (Nat.not_le_of_lt before)
      have front : i - X.length = 0 := by omega
      have short : ¬ X.length + ('<' :: first).length ≤ i := by omega
      rw [front, Nat.zero_sub, List.drop_zero, List.drop_zero, List.cons_append, closingTag_append_iff noTag some,
        closingTag_append_iff noTag some]
      simp only [before, short, true_and, false_and, or_false]
  · have notBefore : ¬ i < X.length := by omega
    rw [List.drop_eq_nil_of_le behind, List.nil_append]
    obtain inside | beyond := Nat.lt_or_ge (i - X.length) S.length
    · have front : i - X.length - S.length = 0 := by omega
      have short : ¬ X.length + S.length ≤ i := by omega
      rw [front, List.drop_zero]
      simp only [inert.not_closingTag plain inside, notBefore, short, false_and, or_false]
    · have long : X.length + S.length ≤ i := by omega
      have past : X.length ≤ i - S.length := by omega
      rw [List.drop_eq_nil_of_le beyond, List.drop_eq_nil_of_le past, Nat.sub_right_comm]
      simp only [List.nil_append, notBefore, long, false_and, true_and, false_or]

/-- A place of a text when a piece of some length was put in at another place. -/
def moved (place piece i : Nat) : Nat := if i < place then i else i + piece

/-- The first closing tag is the same as before, moved by what was put in in front of it. -/
theorem closing?_insert {tag : String} (inert : Inert S) (plain : IsPlainName tag.toList)
    (next : X = [] ∨ ∃ rest, Y = '<' :: rest) :
    closing? tag (X ++ S ++ Y) = (closing? tag (X ++ Y)).map (moved X.length S.length) := by
  have begins := closingTag_drop_insert inert plain next
  cases found : closing? tag (X ++ Y) with
  | none =>
    have none := closing?_eq_none_iff.mp found
    refine closing?_eq_none_iff.mpr fun i closes => ?_
    obtain ⟨-, closes⟩ | ⟨-, closes⟩ := (begins i).mp closes
    · exact none i closes
    · exact none _ closes
  | some place =>
    obtain ⟨closes, first⟩ := closing?_eq_some_iff.mp found
    refine closing?_eq_some_iff.mpr ⟨(begins _).mpr ?_, fun j less earlier => ?_⟩
    · rw [moved]
      split
      · next before => exact .inl ⟨before, closes⟩
      · exact .inr ⟨by omega, by rw [Nat.add_sub_cancel]; exact closes⟩
    · rw [moved] at less
      obtain ⟨before, earlier⟩ | ⟨behind, earlier⟩ := (begins j).mp earlier
      · refine first j ?_ earlier
        split at less <;> omega
      · refine first _ ?_ earlier
        split at less <;> omega

/-! ## Style elements -/

/-- Style elements one after another. -/
def elements (styles : List Style) : List Char := styles.flatMap fun x => x.render.toList

theorem toList_join_render (styles : List Style) :
    (String.join (styles.map Style.render)).toList = elements styles := by
  rw [String.toList_join, List.flatMap_map, elements]

theorem elements_cons (x : Style) (rest : List Style) : elements (x :: rest) = x.render.toList ++ elements rest :=
  List.flatMap_cons

theorem closesOnce_render (x : Style) : Style.ClosesOnce x.render := by
  refine Style.closesOnce_element_iff.mpr ⟨fun found => ?_, Style.absent_guarded x.css⟩
  have mem : '<' ∈ (toString x.number).toList := found.subset (by decide)
  have digit := Nat.isDigit_of_mem_toDigits (by omega) (by omega) (Nat.toList_repr ▸ mem)
  exact absurd digit (by decide)

theorem opens_render (x : Style) : ∃ rest, x.render.toList = '<' :: rest := by
  rw [Style.render, Style.toList_element, Style.toList_body]
  exact ⟨_, rfl⟩

theorem ends_render (x : Style) : ∃ front, x.render.toList = front ++ ['>'] := by
  obtain ⟨front, closed⟩ := (closesOnce_render x).closed
  exact ⟨front.toList ++ "</style".toList, by rw [closed, String.toList_append, List.append_assoc]; rfl⟩

/-- Behind a text that ends with a tag, the beginning of a closing tag stands either in that text or after it. -/
theorem closing_of_append {before after : List Char} (ends : ∃ front, X = front ++ ['>'])
    (split : X ++ Y = before ++ '<' :: '/' :: after) :
    (∃ more, X = before ++ '<' :: '/' :: more ∧ after = more ++ Y) ∨
      ∃ more, before = X ++ more ∧ Y = more ++ '<' :: '/' :: after := by
  obtain ⟨more, rfl, first⟩ | ⟨more, whole, first⟩ := List.append_eq_append_iff.mp split
  · exact .inr ⟨more, rfl, first⟩
  · rcases more with _ | ⟨c, _ | ⟨d, more⟩⟩
    · exact .inr ⟨[], by rw [whole, List.append_nil, List.append_nil], first.symm⟩
    · obtain ⟨front, rfl⟩ := ends
      obtain ⟨-, last⟩ := List.append_inj' whole rfl
      cases last
      cases first
    · obtain ⟨rfl, second⟩ := List.cons.inj first
      obtain ⟨rfl, behind⟩ := List.cons.inj second
      exact .inl ⟨more, whole, behind⟩

/-- Where the beginning of a closing tag stands among style elements, one of them is closed. -/
theorem closings_elements {styles : List Style} {before after : List Char}
    (split : elements styles = before ++ '<' :: '/' :: after) :
    ∃ earlier x later, styles = earlier ++ x :: later ∧
      before ++ "</style>".toList = elements (earlier ++ [x]) ∧ after = "style>".toList ++ elements later := by
  induction styles generalizing before with
  | nil => cases before <;> cases split
  | cons x rest ih =>
    rw [elements_cons] at split
    obtain ⟨more, whole, rfl⟩ | ⟨more, rfl, behind⟩ := closing_of_append (ends_render x) split
    · have own : more = "style>".toList := (closesOnce_render x).once before more (by rw [whole, List.append_assoc]; rfl)
      refine ⟨[], x, rest, rfl, ?_, by rw [own]⟩
      rw [List.nil_append, elements_cons, whole, own]
      exact (List.append_nil _).symm
    · obtain ⟨earlier, y, later, rfl, closed, rest⟩ := ih behind
      refine ⟨x :: earlier, y, later, rfl, ?_, rest⟩
      rw [List.cons_append, elements_cons, List.append_assoc, closed]

theorem inert_elements {styles : List Style} (some : styles ≠ []) : Inert (elements styles) where
  opens := by
    obtain ⟨x, rest, rfl⟩ := List.exists_cons_of_ne_nil some
    obtain ⟨more, opens⟩ := opens_render x
    exact ⟨more ++ elements rest, by rw [elements_cons, opens, List.cons_append]⟩
  ends := by
    obtain ⟨earlier, x, rfl⟩ := List.eq_nil_or_concat' styles |>.resolve_left some
    obtain ⟨front, ends⟩ := ends_render x
    refine ⟨elements earlier ++ front, ?_⟩
    rw [elements, List.flatMap_append, List.flatMap_singleton, ends, List.append_assoc, elements]
  closes before after split := by
    obtain ⟨-, -, later, -, -, rfl⟩ := closings_elements split
    exact List.prefix_append _ _

/-! ## Places -/

/-- Where styles are put: where the head is closed, or else at the start. -/
def IsStylePlace (html : List Char) (place : Nat) : Prop :=
  IsFirstClosing "head".toList html place ∨ NoClosing "head".toList html ∧ place = 0

/-- Where the badge is put: where the body is closed, else where the whole is closed, or else at the end. -/
def IsBadgePlace (html : List Char) (place : Nat) : Prop :=
  IsFirstClosing "body".toList html place ∨ NoClosing "body".toList html ∧
    (IsFirstClosing "html".toList html place ∨ NoClosing "html".toList html ∧ place = html.length)

open Document (stylePlace badgePlace inserted)

theorem closing?_getD_eq_iff {tag : String} {default place : Nat} :
    (closing? tag cs).getD default = place ↔
      IsFirstClosing tag.toList cs place ∨ NoClosing tag.toList cs ∧ default = place := by
  cases found : closing? tag cs with
  | some i =>
    have notNone : ¬ NoClosing tag.toList cs := fun none => none i (closing?_eq_some_iff.mp found).1
    rw [← closing?_eq_some_iff, found]
    simp [notNone]
  | none =>
    rw [← closing?_eq_some_iff, found]
    simp [closing?_eq_none_iff.mp found]

theorem isStylePlace_iff {html : List Char} {place : Nat} : IsStylePlace html place ↔ place = stylePlace html := by
  rw [IsStylePlace, eq_comm (b := stylePlace html), stylePlace, closing?_getD_eq_iff, eq_comm (a := 0)]

theorem badgePlace_eq (html : List Char) :
    badgePlace html = (closing? "body" html).getD ((closing? "html" html).getD html.length) := by
  rw [badgePlace]
  cases closing? "body" html <;> rfl

theorem isBadgePlace_iff {html : List Char} {place : Nat} : IsBadgePlace html place ↔ place = badgePlace html := by
  rw [IsBadgePlace, eq_comm (b := badgePlace html), badgePlace_eq, closing?_getD_eq_iff, closing?_getD_eq_iff,
    eq_comm (a := html.length)]

/-- A body that is closed before the head. -/
example : stylePlace "p</Body ></head>".toList = 9 ∧ badgePlace "p</Body ></head>".toList = 1 := by decide

theorem getD_map_moved (o : Option Nat) (n : Nat) (long : X.length ≤ n) :
    (o.map (moved X.length S.length)).getD (n + S.length) = moved X.length S.length (o.getD n) := by
  cases o with
  | some i => rfl
  | none => rw [Option.map_none, Option.getD_none, Option.getD_none, moved, if_neg (Nat.not_lt_of_le long)]

/-- The badge goes to the same place when an inert piece was put in at the start or in front of a tag. -/
theorem badgePlace_append (inert : Inert S) (next : X = [] ∨ ∃ rest, Y = '<' :: rest) :
    badgePlace (X ++ S ++ Y) = moved X.length S.length (badgePlace (X ++ Y)) := by
  have body : IsPlainName "body".toList := ⟨'b', _, rfl, by decide, by decide⟩
  have html : IsPlainName "html".toList := ⟨'h', _, rfl, by decide, by decide⟩
  have long : X.length ≤ (X ++ Y).length := by rw [List.length_append]; omega
  have longer : (X ++ S ++ Y).length = (X ++ Y).length + S.length := by simp only [List.length_append]; omega
  rw [badgePlace_eq, badgePlace_eq, closing?_insert inert body next, closing?_insert inert html next, longer,
    getD_map_moved _ _ long]
  cases closing? "body" (X ++ Y) with
  | some i => rfl
  | none => rfl

theorem IsStylePlace.next {html : List Char} {place : Nat} (h : IsStylePlace html place) :
    html.take place = [] ∨ ∃ rest, html.drop place = '<' :: rest := by
  obtain ⟨⟨word, blanks, after, tag, -⟩, -⟩ | ⟨-, rfl⟩ := h
  · exact .inr ⟨_, tag⟩
  · exact .inl rfl

theorem IsStylePlace.le_length {html : List Char} {place : Nat} (h : IsStylePlace html place) :
    place ≤ html.length := by
  obtain first | ⟨-, rfl⟩ := h
  · exact Nat.le_of_lt first.lt_length
  · exact Nat.zero_le _

theorem IsBadgePlace.le_length {html : List Char} {place : Nat} (h : IsBadgePlace html place) :
    place ≤ html.length := by
  obtain first | ⟨-, first | ⟨-, rfl⟩⟩ := h
  · exact Nat.le_of_lt first.lt_length
  · exact Nat.le_of_lt first.lt_length
  · exact Nat.le_refl _

/-- The badge goes to the same place when the styles are in. -/
theorem badgePlace_insert (styles : List Style) (html : List Char) :
    badgePlace (insertAt (stylePlace html) (elements styles) html) =
      moved (stylePlace html) (elements styles).length (badgePlace html) := by
  have place := isStylePlace_iff.mpr (Eq.refl (stylePlace html))
  generalize stylePlace html = p at place ⊢
  by_cases none : styles = []
  · subst none
    change badgePlace (html.take p ++ [] ++ html.drop p) = moved p 0 (badgePlace html)
    rw [List.append_nil, List.take_append_drop, moved, Nat.add_zero, ite_self]
  · have added := badgePlace_append (inert_elements none) place.next
    rwa [List.take_append_drop, List.length_take_of_le place.le_length] at added

/-! ## Insertion -/

/-- A text with two fragments put in at places of it; at one and the same place they stand in order. -/
def insertTwice (p : Nat) (first : List Char) (q : Nat) (second cs : List Char) : List Char :=
  if p ≤ q then cs.take p ++ first ++ (cs.drop p).take (q - p) ++ second ++ cs.drop q
  else cs.take q ++ second ++ (cs.drop q).take (p - q) ++ first ++ cs.drop p

theorem insertAt_append {a b : List Char} {i : Nat} (place : a.length = i) (fragment : List Char) :
    insertAt i fragment (a ++ b) = a ++ fragment ++ b := by
  rw [insertAt, List.take_left' place, List.drop_left' place]

/-- A text in three parts, given by two places of it. -/
theorem exists_parts {i j : Nat} (less : i ≤ j) (inside : j ≤ cs.length) :
    ∃ a b c, cs = a ++ (b ++ c) ∧ a.length = i ∧ (a ++ b).length = j ∧ b = (cs.drop i).take (j - i) := by
  refine ⟨cs.take i, (cs.drop i).take (j - i), (cs.drop i).drop (j - i), ?_, ?_, ?_, rfl⟩
  · rw [List.take_append_drop, List.take_append_drop]
  · rw [List.length_take_of_le (Nat.le_trans less inside)]
  · rw [List.length_append, List.length_take_of_le (Nat.le_trans less inside),
      List.length_take_of_le (by rw [List.length_drop]; omega)]
    omega

theorem insertAt_moved {p q : Nat} (hp : p ≤ cs.length) (hq : q ≤ cs.length) (first second : List Char) :
    insertAt (moved p first.length q) second (insertAt p first cs) = insertTwice p first q second cs := by
  rw [moved, insertTwice]
  obtain behind | before := Nat.lt_or_ge q p
  · obtain ⟨a, b, c, rfl, ha, hb, hm⟩ := exists_parts (Nat.le_of_lt behind) hp
    rw [if_pos behind, if_neg (Nat.not_le_of_lt behind), ← hm, List.take_left' ha, ← List.append_assoc a b c,
      insertAt_append hb, List.drop_left' hb, List.append_assoc, List.append_assoc, insertAt_append ha]
    simp only [List.append_assoc]
  · obtain ⟨a, b, c, rfl, ha, hb, hm⟩ := exists_parts before hq
    have longer : (a ++ first ++ b).length = q + first.length := by
      simp only [List.length_append] at hb ⊢
      omega
    rw [if_neg (Nat.not_lt_of_le before), if_pos before, ← hm, List.take_left' ha, insertAt_append ha,
      ← List.append_assoc, insertAt_append longer, ← List.append_assoc a b c, List.drop_left' hb]

theorem inserted_eq (place : List Char → Nat) (fragment : String) (html : List Char) :
    inserted place fragment html = insertAt (place html) fragment.toList html := by
  rw [inserted]
  split
  · next none => rw [none, insertAt, String.toList_empty, List.append_nil, List.take_append_drop]
  · rfl

/-- Rendering puts two fragments into the markup, the style elements and the badge, at places that are read off the
markup as it was given, and changes nothing else. Without styles and with no badge to be seen the markup stays as it
is. In what is put in for the styles, the beginning of a closing tag stands only where one of the elements ends. -/
theorem render_inserts_twice {ℓ : Type} (d : Document ℓ) (html : String) :
    (∃ p q, (∀ i, IsStylePlace html.toList i ↔ i = p) ∧ (∀ i, IsBadgePlace html.toList i ↔ i = q) ∧
      (d.render html).toList =
        insertTwice p (elements d.styles) q d.indicator.render.toList html.toList) ∧
    (d.styles = [] → d.indicator.visible = false → d.render html = html) ∧
    ∀ before after, elements d.styles = before ++ "</".toList ++ after →
      ∃ earlier x later, d.styles = earlier ++ x :: later ∧
        before ++ "</style>".toList = elements (earlier ++ [x]) ∧ after = "style>".toList ++ elements later := by
  have rendered : (d.render html).toList =
      insertTwice (stylePlace html.toList) (elements d.styles) (badgePlace html.toList)
        d.indicator.render.toList html.toList := by
    have inside := (isStylePlace_iff.mpr (Eq.refl (stylePlace html.toList))).le_length
    have inside' := (isBadgePlace_iff.mpr (Eq.refl (badgePlace html.toList))).le_length
    rw [Document.render, Document.renderWith, String.toList_ofList, inserted_eq, inserted_eq, toList_join_render,
      badgePlace_insert, insertAt_moved inside inside']
  refine ⟨⟨_, _, fun _ => isStylePlace_iff, fun _ => isBadgePlace_iff, rendered⟩, fun none hidden => ?_,
    fun before after split => closings_elements (by rw [split, List.append_assoc]; rfl)⟩
  have noBadge : d.indicator.render = "" := by rw [Indicator.render, hidden]; rfl
  rw [Document.render, none, Document.renderWith, noBadge, List.map_nil, String.join_nil, inserted, if_pos rfl,
    inserted, if_pos rfl, String.ofList_toList]

end Userscript.Page
