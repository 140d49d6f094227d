import Mathlib.Data.List.Infix
import Userscript.Metadata
import Userscript.Proofs.Text.Lines
import Userscript.Proofs.Text.Pieces

/-!
# Userscript.Proofs.Metadata

A header is read back as it was written, whatever stands around it.

* `block_append`, `block_eq_nil`: what stands between the first markers, and that there is nothing without them;
* `directiveAt?_append`: behind the first `@` of a line the key, the blanks and the value are told apart;
* `Line` and `Line.WellFormed` are the lines of a header in its documented form, and `EndsLine` is what ends each;
* `directivesOf_lines`: from such lines exactly their directives are read;
* `Header.ofDirectives` is what directives tell of a script, and `header_reads_back`: that is what the header says.
-/

namespace Userscript.Metadata

open Text (OneLine)

/-! ## Marks -/

/-- A mark begins nowhere in a text, also where what follows would complete it. -/
def Unmarked (mark front behind : List Char) : Prop :=
  ∀ early late, front = early ++ late → late ≠ [] → ¬ mark <+: late ++ behind

namespace Unmarked

variable {mark front behind rest : List Char} {c : Char}

theorem head (h : Unmarked mark (c :: front) behind) : ¬ mark <+: c :: (front ++ behind) :=
  h [] (c :: front) rfl (List.cons_ne_nil c front)

theorem tail (h : Unmarked mark (c :: front) behind) : Unmarked mark front behind :=
  fun early late split some => h (c :: early) late (by rw [split, List.cons_append]) some

theorem append {more : List Char} (h : Unmarked mark front (more ++ behind)) (h' : Unmarked mark more behind) :
    Unmarked mark (front ++ more) behind := by
  intro early late split some
  rcases List.append_eq_append_iff.mp split with ⟨between, rfl, cut⟩ | ⟨between, rfl, rfl⟩
  · exact h' between late cut some
  · cases between with
    | nil => exact h' [] more rfl some
    | cons d between =>
      rw [List.append_assoc]
      exact h early (d :: between) rfl (List.cons_ne_nil d between)

/-- A mark that follows decides on what follows it, too. -/
theorem of_self (h : Unmarked mark front mark) : Unmarked mark front (mark ++ rest) := by
  intro early late split some first
  refine h early late split some (List.prefix_of_prefix_length_le first ?_ ?_)
  · rw [← List.append_assoc]
    exact List.prefix_append _ _
  · rw [List.length_append]
    exact Nat.le_add_left _ _

/-- A text that does not hold the mark, before a character that is not in it. -/
theorem of_absent (absent : ¬ mark <:+: front) (apart : c ∉ mark) : Unmarked mark front (c :: rest) := by
  rintro early late rfl some first
  refine absent ((Text.prefix_of_prefix_append_cons apart first).isInfix.trans ?_)
  exact (List.suffix_append early late).isInfix

theorem of_forall {m : Char} {ms : List Char} (h : ∀ c ∈ front, c ≠ m) : Unmarked (m :: ms) front behind := by
  rintro early late rfl some first
  cases late with
  | nil => exact some rfl
  | cons d late =>
    obtain ⟨rfl, -⟩ := List.cons_prefix_cons.mp first
    exact h m (List.mem_append_right early List.mem_cons_self) rfl

theorem iff_tails : Unmarked mark front behind ↔ ∀ late ∈ front.tails, late ≠ [] → ¬ mark <+: late ++ behind := by
  simp only [List.mem_tails]
  constructor
  · rintro h late ⟨early, split⟩
    exact h early late split.symm
  · rintro h early late rfl
    exact h late (List.suffix_append early late)

instance : Decidable (Unmarked mark front behind) := decidable_of_iff _ iff_tails.symm

end Unmarked

section Marks

variable {mark front rest source : List Char}

theorem afterMark?_eq_after? : afterMark? mark source = Text.after? mark source := by
  induction mark generalizing source with
  | nil => rfl
  | cons m ms ih => cases source <;> simp [afterMark?, Text.after?, ih]

theorem afterMark?_eq_some_iff : afterMark? mark source = some rest ↔ source = mark ++ rest := by
  rw [afterMark?_eq_after?, Text.after?_eq_some_iff]

theorem afterMark?_eq_none_iff : afterMark? mark source = none ↔ ¬ mark <+: source := by
  rw [afterMark?_eq_after?, ← Text.isSome_after?_iff, Option.not_isSome_iff_eq_none]

theorem afterFirstMark?_append (h : Unmarked mark front (mark ++ rest)) :
    afterFirstMark? mark (front ++ (mark ++ rest)) = some rest := by
  induction front with
  | nil =>
    have found : afterMark? mark (mark ++ rest) = some rest := afterMark?_eq_some_iff.mpr rfl
    rw [List.nil_append]
    cases whole : mark ++ rest with
    | nil => rw [afterFirstMark?, ← whole, found]
    | cons c cs => rw [afterFirstMark?, ← whole, found]
  | cons c front ih =>
    rw [List.cons_append, afterFirstMark?, afterMark?_eq_none_iff.mpr h.head]
    exact ih h.tail

theorem beforeFirstMark?_append {passed : List Char} (h : Unmarked mark front (mark ++ rest)) :
    beforeFirstMark? mark passed (front ++ (mark ++ rest)) = some (passed.reverse ++ front) := by
  induction front generalizing passed with
  | nil =>
    have found : afterMark? mark (mark ++ rest) = some rest := afterMark?_eq_some_iff.mpr rfl
    rw [List.nil_append, List.append_nil]
    cases whole : mark ++ rest with
    | nil => rw [beforeFirstMark?, (List.append_eq_nil_iff.mp whole).1, List.isEmpty_nil, if_pos rfl]
    | cons c cs => rw [beforeFirstMark?, ← whole, found]
  | cons c front ih =>
    rw [List.cons_append, beforeFirstMark?, afterMark?_eq_none_iff.mpr h.head]
    dsimp only
    rw [ih h.tail, List.reverse_cons, List.append_assoc]
    rfl

theorem exists_of_afterFirstMark? (h : afterFirstMark? mark source = some rest) :
    ∃ front, source = front ++ (mark ++ rest) := by
  induction source with
  | nil =>
    have begins : [] = mark ++ rest := afterMark?_eq_some_iff.mp h
    exact ⟨[], begins⟩
  | cons c cs ih =>
    rw [afterFirstMark?] at h
    split at h
    · next found =>
      cases h
      have begins : c :: cs = mark ++ rest := afterMark?_eq_some_iff.mp found
      exact ⟨[], begins⟩
    · obtain ⟨front, rfl⟩ := ih h
      exact ⟨c :: front, rfl⟩

theorem exists_of_beforeFirstMark? {passed : List Char} (h : beforeFirstMark? mark passed source = some front) :
    ∃ inside rest, source = inside ++ (mark ++ rest) := by
  induction source generalizing passed with
  | nil =>
    rw [beforeFirstMark?] at h
    split at h
    · next none => exact ⟨[], [], by rw [List.isEmpty_iff.mp none]; rfl⟩
    · cases h
  | cons c cs ih =>
    rw [beforeFirstMark?] at h
    split at h
    · next rest found =>
      have begins : c :: cs = mark ++ rest := afterMark?_eq_some_iff.mp found
      exact ⟨[], rest, begins⟩
    · obtain ⟨inside, rest, rfl⟩ := ih h
      exact ⟨c :: inside, rest, rfl⟩

end Marks

theorem block_append {before inside after : List Char} (first : Unmarked opening.toList before opening.toList)
    (next : Unmarked closing.toList inside (closing.toList ++ after)) :
    block (before ++ (opening.toList ++ (inside ++ (closing.toList ++ after)))) = inside := by
  rw [block, afterFirstMark?_append first.of_self]
  dsimp only
  rw [beforeFirstMark?_append next]
  rfl

theorem block_eq_nil {source : List Char}
    (none : ¬ ∃ before inside after, source = before ++ (opening.toList ++ (inside ++ (closing.toList ++ after)))) :
    block source = [] := by
  rw [block]
  split
  · rfl
  · next rest opened =>
    cases closed : beforeFirstMark? closing.toList [] rest with
    | none => rfl
    | some front =>
      obtain ⟨before, rfl⟩ := exists_of_afterFirstMark? opened
      obtain ⟨inside, after, rfl⟩ := exists_of_beforeFirstMark? closed
      exact absurd ⟨before, inside, after, rfl⟩ none

/-! ## Directives -/

section Directives

variable {lead cs : List Char} {c : Char}

theorem directiveIn?_cons (h : c ≠ '@') : directiveIn? (c :: cs) = directiveIn? cs := by
  rw [directiveIn?, if_neg h]

theorem directiveIn?_append (h : '@' ∉ lead) : directiveIn? (lead ++ cs) = directiveIn? cs := by
  induction lead with
  | nil => rfl
  | cons c lead ih =>
    rw [List.mem_cons, not_or] at h
    rw [List.cons_append, directiveIn?_cons (Ne.symm h.1), ih h.2]

theorem directive?_cons (h : c ≠ '@') : directive? (String.ofList (c :: cs)) = directive? (String.ofList cs) := by
  rw [directive?, directive?, String.toList_ofList, String.toList_ofList, directiveIn?_cons h]

theorem directive?_of_notMem (h : '@' ∉ cs) : directive? (String.ofList cs) = none := by
  have none : directiveIn? cs = none := by
    rw [← List.append_nil cs, directiveIn?_append h]
    rfl
  rw [directive?, String.toList_ofList, none]
  rfl

theorem directive?_eq_some {value written : List Char} {key : String}
    (found : directiveIn? cs = some (key, String.ofList written))
    (trimmed : Text.trim (String.ofList written) = String.ofList value) (valued : value ≠ []) :
    directive? (String.ofList cs) = some (key, String.ofList value) := by
  have given : String.ofList value ≠ "" := fun none => valued (String.ofList_injective none)
  rw [directive?, String.toList_ofList, found]
  simp only [Option.bind_eq_bind, Option.bind_some, trimmed, if_neg given]
  rfl

theorem isKeyChar_of_isGap (h : isGap c = true) : isKeyChar c = false := by
  simp only [isGap, Bool.or_eq_true, decide_eq_true_eq] at h
  rcases h with rfl | rfl <;> decide

theorem isKeyChar_of_isLineBreak (h : Text.isLineBreak c = true) : isKeyChar c = false := by
  have none : ∀ n ∈ [10, 11, 12, 13, 28, 29, 30, 0x85, 0x2028, 0x2029], isKeyChar (Char.ofNat n) = false := by
    decide +kernel
  have mem : c.toNat ∈ [10, 11, 12, 13, 28, 29, 30, 0x85, 0x2028, 0x2029] := by
    simp only [Text.isLineBreak, Bool.or_eq_true, Bool.and_eq_true, decide_eq_true_eq, beq_iff_eq] at h
    simp only [List.mem_cons, List.not_mem_nil, or_false]
    omega
  rw [← Char.ofNat_toNat c]
  exact none _ mem

theorem isLineBreak_of_isGap (h : isGap c = true) : Text.isLineBreak c = false := by
  simp only [isGap, Bool.or_eq_true, decide_eq_true_eq] at h
  rcases h with rfl | rfl <;> decide

theorem isBlank_of_isGap (h : isGap c = true) : Text.isBlank c = true := by
  simp only [isGap, Bool.or_eq_true, decide_eq_true_eq] at h
  rcases h with rfl | rfl <;> decide

theorem directiveAt?_append {key gap : List Char} (hkey : ∀ c ∈ key, isKeyChar c = true) (keyed : key ≠ [])
    (hgap : ∀ c ∈ gap, isGap c = true) (apart : gap ≠ []) (first : isGap c = false) :
    directiveAt? (key ++ (gap ++ c :: cs)) = some (String.ofList key, String.ofList (c :: cs)) := by
  obtain ⟨g, gaps, rfl⟩ := List.exists_cons_of_ne_nil apart
  have stop : isKeyChar g = false := isKeyChar_of_isGap (hgap g List.mem_cons_self)
  have ofKey : (key ++ (g :: gaps ++ c :: cs)).takeWhile isKeyChar = key :=
    Text.takeWhile_append hkey fun _ here => Option.some.inj here ▸ stop
  have ofGap : (g :: gaps ++ c :: cs).takeWhile isGap = g :: gaps :=
    Text.takeWhile_append hgap fun _ here => Option.some.inj here ▸ first
  simp only [directiveAt?, ofKey, List.drop_left, ofGap]
  simp [keyed]

end Directives

/-! ## Lines -/

/-- A line of a header: whatever holds no `@`, or a directive behind such a text, which is a comment sign and blanks
as a rule. -/
inductive Line where
  | directive (lead key gap value : List Char)
  | other (text : List Char)

/-- White space that ends a line. -/
def EndsLine (tail : List Char) : Prop :=
  (∀ c ∈ tail, Text.isBlank c = true) ∧ ∃ c ∈ tail, Text.isLineBreak c = true

instance (tail : List Char) : Decidable (EndsLine tail) :=
  @instDecidableAnd _ _ (List.decidableBAll _ tail) (List.decidableBEx _ tail)

/-- A text within a line that holds neither a directive nor the closing marker. -/
structure Quiet (cs : List Char) : Prop where
  oneLine : OneLine cs
  silent : '@' ∉ cs
  absent : ¬ closing.toList <:+: cs

instance (cs : List Char) : Decidable (Quiet cs) :=
  decidable_of_iff (OneLine cs ∧ '@' ∉ cs ∧ ¬ closing.toList <:+: cs)
    ⟨fun ⟨one, silent, absent⟩ => ⟨one, silent, absent⟩, fun q => ⟨q.oneLine, q.silent, q.absent⟩⟩

namespace Line

/-- A line as it is written, without its end. -/
def text : Line → List Char
  | directive lead key gap value => lead ++ '@' :: (key ++ (gap ++ value))
  | other text => text

def directive? : Line → Option Directive
  | directive _ key _ value => some (String.ofList key, String.ofList value)
  | other _ => none

/-- The documented form. A key is made of word characters and hyphens, blanks or tabs follow it, and a value has no
blanks at its ends, no line break and no closing marker. -/
inductive WellFormed : Line → Prop where
  | directive {lead key gap value : List Char} (lead_quiet : Quiet lead)
      (keyed : key ≠ []) (key_chars : ∀ c ∈ key, isKeyChar c = true)
      (apart : gap ≠ []) (gap_chars : ∀ c ∈ gap, isGap c = true)
      (valued : value ≠ []) (trimmed : Text.trim (String.ofList value) = String.ofList value)
      (value_line : OneLine value) (value_open : ¬ closing.toList <:+: value) :
      WellFormed (directive lead key gap value)
  | other {text : List Char} (quiet : Quiet text) : WellFormed (other text)

instance : (l : Line) → Decidable l.WellFormed
  | .directive lead key gap value => by
    refine decidable_of_iff (Quiet lead ∧ key ≠ [] ∧ key.all isKeyChar = true ∧ gap ≠ [] ∧ gap.all isGap = true ∧
      value ≠ [] ∧ Text.trim (String.ofList value) = String.ofList value ∧ OneLine value ∧ ¬ closing.toList <:+: value)
      ⟨?_, ?_⟩
    · rintro ⟨quiet, keyed, key_chars, apart, gap_chars, rest⟩
      obtain ⟨valued, trimmed, one, absent⟩ := rest
      exact .directive quiet keyed (List.all_eq_true.mp key_chars) apart (List.all_eq_true.mp gap_chars) valued trimmed
        one absent
    · intro formed
      cases formed with
      | directive quiet keyed key_chars apart gap_chars valued trimmed one absent =>
        exact ⟨quiet, keyed, List.all_eq_true.mpr key_chars, apart, List.all_eq_true.mpr gap_chars, valued, trimmed,
          one, absent⟩
  | .other text => decidable_of_iff (Quiet text) ⟨.other, fun | .other quiet => quiet⟩

end Line

/-- The text of lines, each with what ends it. -/
def textOf (lines : List (Line × List Char)) : List Char := lines.flatMap fun l => l.1.text ++ l.2

theorem textOf_cons_append (l : Line × List Char) (lines : List (Line × List Char)) (cs : List Char) :
    textOf (l :: lines) ++ cs = l.1.text ++ (l.2 ++ (textOf lines ++ cs)) := by
  rw [textOf, List.flatMap_cons, List.append_assoc, List.append_assoc]
  rfl

/-! ### Markers in lines -/

theorem not_mem_closing_of_isBlank {c : Char} (h : Text.isBlank c = true) : c ∉ closing.toList := by
  have none : closing.toList.all (fun d => !Text.isBlank d) = true := by decide
  intro mem
  have plain := List.all_eq_true.mp none c mem
  rw [h] at plain
  cases plain

theorem closing_infix_of_blanks {blanks cs : List Char} (h : ∀ c ∈ blanks, Text.isBlank c = true)
    (inside : closing.toList <:+: blanks ++ cs) : closing.toList <:+: cs := by
  induction blanks with
  | nil => exact inside
  | cons b blanks ih =>
    obtain ⟨first, later⟩ := List.forall_mem_cons.mp h
    have parts : closing.toList <:+: [] ∨ closing.toList <:+: blanks ++ cs :=
      Text.infix_append_cons (not_mem_closing_of_isBlank first) inside
    rcases parts with none | rest
    · exact absurd (List.infix_nil.mp none) (by decide)
    · exact ih later rest

/-- No line holds the closing marker. Of a directive it could stand in the value only, since a key has no equals
sign. -/
theorem Line.WellFormed.absent {l : Line} (h : l.WellFormed) : ¬ closing.toList <:+: l.text := by
  cases h with
  | other quiet => exact quiet.absent
  | @directive lead key gap value lead_quiet _ key_chars apart gap_chars _ _ _ value_open =>
    obtain ⟨g, gaps, rfl⟩ := List.exists_cons_of_ne_nil apart
    obtain ⟨first, later⟩ := List.forall_mem_cons.mp gap_chars
    intro inside
    rcases Text.infix_append_cons (by decide) inside with inLead | behind
    · exact lead_quiet.absent inLead
    · rcases Text.infix_append_cons (not_mem_closing_of_isBlank (isBlank_of_isGap first)) behind with inKey | inValue
      · have equals : isKeyChar '=' = true := key_chars '=' (inKey.subset (by decide))
        exact absurd equals (by decide)
      · exact value_open (closing_infix_of_blanks (fun c mem => isBlank_of_isGap (later c mem)) inValue)

/-- The closing marker does not begin before its place, if it does not in its own line. -/
theorem unmarked_textOf {lines : List (Line × List Char)} {lead after : List Char}
    (h : ∀ l ∈ lines, l.1.WellFormed ∧ EndsLine l.2) (last : Unmarked closing.toList lead (closing.toList ++ after)) :
    Unmarked closing.toList (textOf lines ++ lead) (closing.toList ++ after) := by
  induction lines with
  | nil => exact last
  | cons l lines ih =>
    obtain ⟨⟨formed, blank, b, mem, -⟩, later⟩ := List.forall_mem_cons.mp h
    have ends : Unmarked closing.toList l.2 ((textOf lines ++ lead) ++ (closing.toList ++ after)) :=
      .of_forall fun c mem same => by
        have blankC := blank c mem
        rw [same] at blankC
        cases blankC
    -- The marker has no white space in it, so that it cannot go on behind the end of a line.
    obtain ⟨c, more, tail⟩ := List.exists_cons_of_ne_nil (List.ne_nil_of_mem mem)
    have line : Unmarked closing.toList l.1.text
        ((l.2 ++ (textOf lines ++ lead)) ++ (closing.toList ++ after)) := by
      rw [tail]
      exact .of_absent formed.absent (not_mem_closing_of_isBlank (blank c (tail ▸ List.mem_cons_self)))
    rw [textOf_cons_append]
    exact line.append (ends.append (ih later))

/-! ### Directives in lines -/

def directivesOf (cs : List Char) : List Directive := (Text.linesFrom #[] [] cs).toList.filterMap directive?

theorem directives_eq (source : String) : directives source = directivesOf (block source.toList) := by
  rw [directives, Text.lines, String.toList_ofList, directivesOf]

theorem directivesOf_blanks {blanks cs : List Char} (h : ∀ c ∈ blanks, Text.isBlank c = true) :
    directivesOf (blanks ++ cs) = directivesOf cs := by
  induction blanks with
  | nil => rfl
  | cons c blanks ih =>
    obtain ⟨first, later⟩ := List.forall_mem_cons.mp h
    rw [← ih later, List.cons_append, directivesOf]
    -- A blank ends an empty line, or it stands at the beginning of one.
    cases ends : Text.isLineBreak c with
    | true =>
      rw [Text.filterMap_linesFrom_break rfl ends]
      rfl
    | false =>
      have other : c ≠ '@' := by
        rintro rfl
        cases first
      have skips : (Text.linesFrom #[] ([] ++ [c]) (blanks ++ cs)).toList.filterMap directive? =
          (Text.linesFrom #[] [] (blanks ++ cs)).toList.filterMap directive? :=
        Text.filterMap_linesFrom_skip rfl fun cs => directive?_cons other
      rw [Text.linesFrom_cons ends]
      exact skips

/-- The first line of a text, with the white space that ends it. -/
theorem directivesOf_append {line tail cs : List Char} {d : Option Directive} (one : OneLine line)
    (ends : EndsLine tail)
    (reads : ∀ blanks, (∀ c ∈ blanks, Text.isBlank c = true) → OneLine blanks →
      directive? (String.ofList (line ++ blanks)) = d) :
    directivesOf (line ++ (tail ++ cs)) = d.toList ++ directivesOf cs := by
  obtain ⟨blank, e, mem, isBreak⟩ := ends
  -- The line goes on to the first line break; what is behind that ends empty lines at most.
  obtain ⟨blanks, b, more, rfl, before, breaks⟩ : ∃ blanks b more, tail = blanks ++ b :: more ∧ OneLine blanks ∧
      Text.isLineBreak b = true := by
    let calm (c : Char) : Bool := !Text.isLineBreak c
    have some : tail.dropWhile calm ≠ [] := fun none => by
      have last := List.dropWhile_eq_nil_iff.mp none e mem
      simp [calm, isBreak] at last
    obtain ⟨b, more, cut⟩ := List.exists_cons_of_ne_nil some
    refine ⟨tail.takeWhile calm, b, more, ?_, fun c mem => ?_, ?_⟩
    · rw [← cut, List.takeWhile_append_dropWhile]
    · simpa [calm] using List.mem_takeWhile_imp mem
    · have stops := List.head_dropWhile_not calm some
      simpa [cut, calm] using stops
  rw [List.forall_mem_append, List.forall_mem_cons] at blank
  obtain ⟨blankFront, -, blankMore⟩ := blank
  have whole : line ++ ((blanks ++ b :: more) ++ cs) = (line ++ blanks) ++ b :: (more ++ cs) := by
    simp only [List.append_assoc, List.cons_append]
  have oneLine : OneLine (line ++ blanks) := List.forall_mem_append.mpr ⟨one, before⟩
  rw [whole, directivesOf, Text.linesFrom_append oneLine, Text.filterMap_linesFrom_break rfl breaks, List.append_nil,
    List.reverse_reverse, reads blanks blankFront before]
  exact congrArg (d.toList ++ ·) (directivesOf_blanks blankMore)

theorem Line.WellFormed.oneLine {l : Line} (h : l.WellFormed) : OneLine l.text := by
  cases h with
  | other quiet => exact quiet.oneLine
  | @directive lead key gap value lead_quiet _ key_chars _ gap_chars _ _ value_line _ =>
    simp only [text, OneLine, List.forall_mem_append, List.forall_mem_cons]
    refine ⟨lead_quiet.oneLine, by decide, fun c mem => ?_, fun c mem => ?_, value_line⟩
    · by_contra ends
      rw [Bool.not_eq_false] at ends
      have chars := key_chars c mem
      rw [isKeyChar_of_isLineBreak ends] at chars
      cases chars
    · exact isLineBreak_of_isGap (gap_chars c mem)

theorem Line.WellFormed.reads {l : Line} (h : l.WellFormed) {blanks : List Char}
    (blank : ∀ c ∈ blanks, Text.isBlank c = true) :
    Metadata.directive? (String.ofList (l.text ++ blanks)) = l.directive? := by
  cases h with
  | other quiet =>
    refine directive?_of_notMem ?_
    rw [List.mem_append, not_or]
    exact ⟨quiet.silent, fun mem => absurd (blank '@' mem) (by decide)⟩
  | @directive lead key gap value lead_quiet keyed key_chars apart gap_chars valued trimmed _ _ =>
    obtain ⟨v, vs, rfl⟩ := List.exists_cons_of_ne_nil valued
    have first : isGap v = false := by
      by_contra gapped
      rw [Bool.not_eq_false] at gapped
      have := Text.isBlank_head_of_trim trimmed
      rw [isBlank_of_isGap gapped] at this
      cases this
    have whole : Line.text (.directive lead key gap (v :: vs)) ++ blanks =
        lead ++ '@' :: (key ++ (gap ++ v :: (vs ++ blanks))) := by
      simp only [Line.text, List.append_assoc, List.cons_append]
    have value : Text.trim (String.ofList (v :: (vs ++ blanks))) = String.ofList (v :: vs) := by
      rw [← List.cons_append, Text.trim_append blank, trimmed]
    rw [whole]
    refine directive?_eq_some ?_ value (List.cons_ne_nil v vs)
    rw [directiveIn?_append lead_quiet.silent, directiveIn?, if_pos rfl,
      directiveAt?_append key_chars keyed gap_chars apart first]

theorem directivesOf_lines {lines : List (Line × List Char)} {lead : List Char}
    (h : ∀ l ∈ lines, l.1.WellFormed ∧ EndsLine l.2) (one : OneLine lead) (silent : '@' ∉ lead) :
    directivesOf (textOf lines ++ lead) = lines.filterMap (·.1.directive?) := by
  induction lines with
  | nil =>
    have last : directivesOf (lead ++ []) = [] := by
      rw [directivesOf, Text.linesFrom_append one, List.append_nil, Text.linesFrom]
      split
      · rfl
      · rw [Text.filterMap_push, List.reverse_reverse, directive?_of_notMem silent]
        rfl
    rwa [List.append_nil] at last
  | cons l lines ih =>
    obtain ⟨⟨formed, ends⟩, later⟩ := List.forall_mem_cons.mp h
    rw [textOf_cons_append, directivesOf_append formed.oneLine ends fun blanks blank _ => formed.reads blank, ih later,
      List.filterMap_cons]
    cases l.1.directive? <;> rfl

/-! ## Headers -/

def valueFor? (key : String) (d : Directive) : Option String := if d.1 = key then some d.2 else none

/-- What directives tell of a script: of a name, a version and a wish when to run the first, and all patterns in
order. -/
def Header.ofDirectives (ds : List Directive) : Header where
  name := (ds.findSome? (valueFor? "name")).getD "Imported userscript"
  version := ds.findSome? (valueFor? "version")
  runAt := (ds.findSome? (valueFor? "run-at")).getD "document-end"
  matchPatterns := ds.filterMap (valueFor? "match")
  includePatterns := ds.filterMap (valueFor? "include")
  excludePatterns := ds.filterMap (valueFor? "exclude")

/-- The keys that tell something. -/
def headerKeys : List String := ["name", "version", "run-at", "match", "include", "exclude"]

section Headers

variable {key : String} {ds : List Directive}

theorem values_eq : values key ds = ds.filterMap (valueFor? key) := by
  rw [values, ← List.filterMap_eq_map, ← List.filterMap_eq_filter, List.filterMap_filterMap]
  refine List.filterMap_congr fun d _ => ?_
  by_cases same : d.1 = key <;> simp [same, valueFor?, Option.guard]

theorem header_eq (source : String) : header source = .ofDirectives (directives source) := by
  simp only [header, Header.ofDirectives, List.headD_eq_head?_getD, values_eq, List.head?_filterMap]
  rfl

theorem filterMap_filter_headerKeys (h : key ∈ headerKeys) :
    (ds.filter (·.1 ∈ headerKeys)).filterMap (valueFor? key) = ds.filterMap (valueFor? key) := by
  rw [List.filterMap_filter]
  refine List.filterMap_congr fun d _ => ?_
  by_cases same : d.1 = key <;> simp [same, valueFor?, h]

theorem ofDirectives_filter : Header.ofDirectives (ds.filter (·.1 ∈ headerKeys)) = .ofDirectives ds := by
  simp only [Header.ofDirectives, ← List.head?_filterMap]
  repeat rw [filterMap_filter_headerKeys (by decide)]

end Headers

/-- A header is read back as it was written. The source has any text before the opening marker, provided that the
marker does not begin earlier; then lines of the documented form, the first of which is what follows on the line of
the marker; then what precedes the closing marker on its line; and behind that any text. The header is what the
directives of the lines tell, and nothing else: not even those with other keys tell something. A source without a pair
of markers has the defaults. -/
theorem header_reads_back :
    (∀ (before : List Char) (lines : List (Line × List Char)) (lead after : List Char),
      Unmarked opening.toList before opening.toList →
      (∀ l ∈ lines, l.1.WellFormed ∧ EndsLine l.2) →
      OneLine lead → '@' ∉ lead → Unmarked closing.toList lead closing.toList →
        headerOf (.str (String.ofList
          (before ++ (opening.toList ++ ((textOf lines ++ lead) ++ (closing.toList ++ after)))))) =
            .ok (.ofDirectives (lines.filterMap (·.1.directive?)))) ∧
    (∀ ds : List Directive, Header.ofDirectives ds = .ofDirectives (ds.filter (·.1 ∈ headerKeys))) ∧
    ∀ source : String,
      (¬ ∃ before inside after : List Char,
        source.toList = before ++ (opening.toList ++ (inside ++ (closing.toList ++ after)))) →
          headerOf (.str source) = .ok (.ofDirectives []) := by
  refine ⟨fun before lines lead after first formed one silent last => ?_, fun ds => ofDirectives_filter.symm,
    fun source none => ?_⟩
  · have next : Unmarked closing.toList (textOf lines ++ lead) (closing.toList ++ after) :=
      unmarked_textOf formed last.of_self
    rw [headerOf, header_eq, directives_eq, String.toList_ofList, block_append first next,
      directivesOf_lines formed one silent]
  · rw [headerOf, header_eq, directives_eq, block_eq_nil none]
    rfl

/-- What stands around the block, values with signs of directives in them, odd line ends and other keys. -/
theorem header_reads_back_around :
    let lines : List (Line × List Char) := [
      (.other [], ['\n']),
      (.directive "// ".toList "name".toList [' ', '\t'] "Hide @match *".toList, "  \r\n\n".toList),
      (.other "// of old".toList, [Char.ofNat 0x2028]),
      (.directive "#".toList "match".toList ['\t'] "*://a.example/*".toList, ['\x0c']),
      (.directive [] "author".toList [' '] "@name b".toList, ['\n']),
      (.directive "// ".toList "match".toList [' '] "*://a.example/*".toList, ['\n'])]
    headerOf (.str (String.ofList ("// ==User==UserScrip".toList ++ (opening.toList ++
      ((textOf lines ++ "// ==".toList) ++ (closing.toList ++ "\n// @version 2\n==/UserScript==".toList)))))) =
        .ok { name := "Hide @match *", version := none, runAt := "document-end",
              matchPatterns := ["*://a.example/*", "*://a.example/*"], includePatterns := [],
              excludePatterns := [] } := by
  intro lines
  have formed : ∀ l ∈ lines, l.1.WellFormed ∧ EndsLine l.2 := by decide +kernel
  have first : Unmarked opening.toList "// ==User==UserScrip".toList opening.toList := by decide +kernel
  have last : Unmarked closing.toList "// ==".toList closing.toList := by decide +kernel
  exact header_reads_back.1 _ lines _ _ first formed (by decide) (by decide) last

end Userscript.Metadata
