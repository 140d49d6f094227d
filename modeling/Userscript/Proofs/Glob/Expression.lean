import Userscript.Proofs.Glob.Matching

/-!
# Userscript.Proofs.Glob.Expression

What is displayed for a pattern, read as a regular expression, is the pattern.

Of regular expressions this has what is displayed: characters, the dot, repetition, and the two ends of the text.

* `Expression.read?` reads an expression. A backslash takes away what a character means otherwise, and a star is
  about the one thing in front of it;
* `Expression.fits` tries all ways to match, and `Expression.found` all places to begin at;
* `read?_regex`: what is displayed is read as the pieces of the pattern with any characters between them;
* `fits_partsOf_iff`: on texts of one line these fit what is in the language of the pieces, and so they fit what the
  search for the pieces finds (`regex_equivalent`).
-/

namespace Userscript.Glob

namespace Expression

/-! ## Reading -/

/-- What stands for one character of a text. -/
inductive Atom where
  /-- Any character but a line feed. -/
  | any
  | only (c : Char)
deriving DecidableEq

/-- What an expression is written with. -/
inductive Token where
  | start
  | finish
  | star
  | atom (a : Atom)
deriving DecidableEq

inductive Part where
  | start
  | finish
  | once (a : Atom)
  | many (a : Atom)
deriving DecidableEq

/-- Characters that mean something else that is not read here. -/
def isUnread (c : Char) : Bool := "+?\x7b[()|".toList.contains c

/-- The tokens of an expression. A letter or a digit behind a backslash stands for something else, which is not read
here. -/
def tokens? : List Char → Option (List Token)
  | [] => some []
  | '\\' :: c :: rest => if c.isAlphanum then none else (tokens? rest).map (.atom (.only c) :: ·)
  | '\\' :: [] => none
  | '^' :: rest => (tokens? rest).map (.start :: ·)
  | '$' :: rest => (tokens? rest).map (.finish :: ·)
  | '*' :: rest => (tokens? rest).map (.star :: ·)
  | '.' :: rest => (tokens? rest).map (.atom .any :: ·)
  | c :: rest => if isUnread c then none else (tokens? rest).map (.atom (.only c) :: ·)

/-- The parts that tokens stand for. There has to be something in front of a star to repeat. -/
def parts? : List Token → Option (List Part)
  | [] => some []
  | .start :: rest => (parts? rest).map (.start :: ·)
  | .finish :: rest => (parts? rest).map (.finish :: ·)
  | .star :: _ => none
  | .atom a :: .star :: rest => (parts? rest).map (.many a :: ·)
  | .atom a :: rest => (parts? rest).map (.once a :: ·)

def read? (expression : String) : Option (List Part) := (tokens? expression.toList).bind parts?

/-! ## Matching -/

def Atom.takes : Atom → Char → Bool
  | any, c => c ≠ '\n'
  | only d, c => c = d

/-- Whether some run of characters that an atom stands for is followed by what `next` fits, which is told whether it
is at the beginning. -/
def runs (a : Atom) (next : Bool → List Char → Bool) : Bool → List Char → Bool
  | atStart, [] => next atStart []
  | atStart, c :: cs => next atStart (c :: cs) || a.takes c && runs a next false cs

/-- Whether parts fit the beginning of a text, or of what is left of one. The end is also in front of a last line
feed. -/
def fits : List Part → Bool → List Char → Bool
  | [], _, _ => true
  | .start :: more, atStart, cs => atStart && fits more atStart cs
  | .finish :: more, atStart, cs => (cs = [] || cs = ['\n']) && fits more atStart cs
  | .once _ :: _, _, [] => false
  | .once a :: more, _, c :: cs => a.takes c && fits more false cs
  | .many a :: more, atStart, cs => runs a (fits more) atStart cs

/-- Whether parts fit a text from some place on. -/
def found (parts : List Part) : Bool → List Char → Bool
  | atStart, [] => fits parts atStart []
  | atStart, c :: cs => fits parts atStart (c :: cs) || found parts false cs

theorem runs_iff {a : Atom} {next : Bool → List Char → Bool} {atStart : Bool} {cs : List Char} :
    runs a next atStart cs = true ↔
      ∃ run rest, cs = run ++ rest ∧ (∀ c ∈ run, a.takes c = true) ∧ next (atStart && run.isEmpty) rest = true := by
  induction cs generalizing atStart with
  | nil =>
    rw [runs]
    constructor
    · exact fun h => ⟨[], [], rfl, nofun, by rw [List.isEmpty_nil, Bool.and_true]; exact h⟩
    · rintro ⟨run, rest, none, -, h⟩
      obtain ⟨rfl, rfl⟩ := List.append_eq_nil_iff.mp none.symm
      rwa [List.isEmpty_nil, Bool.and_true] at h
  | cons c cs ih =>
    rw [runs, Bool.or_eq_true, Bool.and_eq_true, ih]
    constructor
    · rintro (h | ⟨taken, run, rest, rfl, all, h⟩)
      · exact ⟨[], c :: cs, rfl, nofun, by rw [List.isEmpty_nil, Bool.and_true]; exact h⟩
      · exact ⟨c :: run, rest, rfl, List.forall_mem_cons.mpr ⟨taken, all⟩, by simpa using h⟩
    · rintro ⟨_ | ⟨d, run⟩, rest, split, all, h⟩
      · rw [List.nil_append] at split
        rw [List.isEmpty_nil, Bool.and_true, ← split] at h
        exact .inl h
      · obtain ⟨rfl, rfl⟩ := List.cons.inj split
        obtain ⟨taken, all⟩ := List.forall_mem_cons.mp all
        exact .inr ⟨taken, run, rest, rfl, all, by simpa using h⟩

/-! ## What is displayed -/

/-- The characters of a piece, each for itself. -/
def literally (piece : List Char) : List Part := piece.map fun c => .once (.only c)

def literalTokens (piece : List Char) : List Token := piece.map fun c => .atom (.only c)

/-- What is behind the first piece, any characters in front of each further one. -/
def behind (ps : List (List Char)) : List Part := ps.flatMap fun p => .many .any :: literally p

def behindTokens (ps : List (List Char)) : List Token := ps.flatMap fun p => .atom .any :: .star :: literalTokens p

/-- The expression for pieces. -/
def partsOf (first : List Char) (ps : List (List Char)) : List Part :=
  .start :: (literally first ++ (behind ps ++ [.finish]))

theorem isAlphanum_of_isSpecial {c : Char} (special : isSpecial c = true) : c.isAlphanum = false := by
  have listed := List.all_eq_true.mp
    (show ("()[]\x7b\x7d?*+-|^$\\.&~# \t\n\r".toList.all fun c => !c.isAlphanum) = true by decide)
  rw [isSpecial, Bool.or_eq_true, Bool.or_eq_true, decide_eq_true_eq, decide_eq_true_eq] at special
  obtain (mem | tab) | feed := special
  · exact (Bool.not_eq_true' _).mp (listed c (List.contains_iff_mem.mp mem))
  · rw [← Char.ofNat_toNat c, tab]
    decide
  · rw [← Char.ofNat_toNat c, feed]
    decide

theorem tokens?_special {c : Char} (special : isSpecial c = true) (rest : List Char) :
    tokens? ('\\' :: c :: rest) = (tokens? rest).map (.atom (.only c) :: ·) := by
  rw [tokens?, isAlphanum_of_isSpecial special, if_neg Bool.false_ne_true]

theorem tokens?_plain {c : Char} (plain : isSpecial c = false) (rest : List Char) :
    tokens? (c :: rest) = (tokens? rest).map (.atom (.only c) :: ·) := by
  have unread : isUnread c = false := by
    have listed := List.all_eq_true.mp (show "+?\x7b[()|".toList.all isSpecial = true by decide)
    rw [Bool.eq_false_iff]
    intro mem
    rw [listed c (List.contains_iff_mem.mp mem)] at plain
    cases plain
  have other {d : Char} (special : isSpecial d = true) : c ≠ d := by
    rintro rfl
    rw [special] at plain
    cases plain
  rw [tokens?, unread, if_neg Bool.false_ne_true]
  · exact fun d more same _ => other (by decide) same
  · exact fun same _ => other (by decide) same
  · exact other (by decide)
  · exact other (by decide)
  · exact other (by decide)
  · exact other (by decide)

/-- A piece is read as its characters. -/
theorem tokens?_escape (piece rest : List Char) :
    tokens? (escape piece ++ rest) = (tokens? rest).map (literalTokens piece ++ ·) := by
  induction piece with
  | nil => exact (congrFun Option.map_id (tokens? rest)).symm
  | cons c piece ih =>
    rw [escape, List.flatMap_cons, ← escape]
    cases special : isSpecial c with
    | true =>
      rw [if_pos rfl, List.append_assoc, List.cons_append, List.cons_append, List.nil_append,
        tokens?_special special, ih, Option.map_map]
      rfl
    | false =>
      rw [if_neg Bool.false_ne_true, List.append_assoc, List.cons_append, List.nil_append, tokens?_plain special, ih,
        Option.map_map]
      rfl

theorem tokens?_gap (rest : List Char) :
    tokens? (".*".toList ++ rest) = (tokens? rest).map (.atom .any :: .star :: ·) := by
  change tokens? ('.' :: '*' :: rest) = _
  rw [tokens?, tokens?, Option.map_map]
  rfl

/-- What is behind the first piece is read with any characters in front of each piece. -/
theorem tokens?_behind (ps : List (List Char)) (rest : List Char) :
    tokens? (ps.flatMap (fun p => ".*".toList ++ escape p) ++ rest) = (tokens? rest).map (behindTokens ps ++ ·) := by
  induction ps with
  | nil => exact (congrFun Option.map_id (tokens? rest)).symm
  | cons p ps ih =>
    rw [List.flatMap_cons, List.append_assoc, List.append_assoc, tokens?_gap, tokens?_escape, ih, Option.map_map,
      Option.map_map]
    refine congrArg (Option.map · _) (funext fun ts => ?_)
    simp [behindTokens]

/-- What stands between parts stands in front of all but the first. -/
theorem intercalate_cons_eq (separator first : List Char) (rest : List (List Char)) :
    separator.intercalate (first :: rest) = first ++ rest.flatMap (separator ++ ·) := by
  induction rest generalizing first with
  | nil => rw [List.intercalate_singleton, List.flatMap_nil, List.append_nil]
  | cons p rest ih =>
    rw [List.intercalate_cons_cons, ih, List.flatMap_cons, List.append_assoc, List.append_assoc]

theorem parts?_once {a : Atom} {rest : List Token} (single : rest.head? ≠ some .star) :
    parts? (.atom a :: rest) = (parts? rest).map (.once a :: ·) := by
  rcases rest with _ | ⟨_ | _ | _ | b, rest⟩
  case cons.star => exact absurd rfl single
  all_goals rfl

theorem parts?_literally (piece : List Char) {rest : List Token} (single : rest.head? ≠ some .star) :
    parts? (literalTokens piece ++ rest) = (parts? rest).map (literally piece ++ ·) := by
  induction piece with
  | nil => exact (congrFun Option.map_id (parts? rest)).symm
  | cons c piece ih =>
    have next : (literalTokens piece ++ rest).head? ≠ some .star := by
      cases piece with
      | nil => exact single
      | cons d piece => exact nofun
    rw [literalTokens, List.map_cons, List.cons_append, ← literalTokens, parts?_once next, ih, Option.map_map]
    rfl

theorem parts?_behind (ps : List (List Char)) :
    parts? (behindTokens ps ++ [.finish]) = some (behind ps ++ [.finish]) ∧
      (behindTokens ps ++ [Token.finish]).head? ≠ some .star := by
  induction ps with
  | nil => exact ⟨rfl, nofun⟩
  | cons p ps ih =>
    obtain ⟨parts, single⟩ := ih
    refine ⟨?_, nofun⟩
    rw [behindTokens, List.flatMap_cons, ← behindTokens, List.append_assoc]
    change (parts? (literalTokens p ++ (behindTokens ps ++ [.finish]))).map (.many .any :: ·) = _
    rw [parts?_literally p single, parts]
    simp [behind]

/-- What is displayed is read as the pieces of the pattern, with any characters between them. -/
theorem read?_regex {pattern : String} {first : List Char} {ps : List (List Char)}
    (cut : pieces pattern.toList = first :: ps) : read? (regex pattern) = some (partsOf first ps) := by
  have text : (regex pattern).toList =
      '^' :: (escape first ++ (ps.flatMap (fun p => ".*".toList ++ escape p) ++ ['$'])) := by
    rw [regex, String.toList_append, String.toList_append, String.toList_intercalate, cut, List.map_cons,
      List.map_cons, intercalate_cons_eq, String.toList_ofList, List.map_map, List.flatMap_map]
    simp
  obtain ⟨parts, single⟩ := parts?_behind ps
  rw [read?, text, tokens?, tokens?_escape, tokens?_behind]
  change parts? (.start :: (literalTokens first ++ (behindTokens ps ++ [.finish]))) = _
  rw [parts?, parts?_literally first single, parts]
  rfl

/-! ## The same language -/

theorem fits_literally_iff {piece : List Char} {more : List Part} {atStart : Bool} {cs : List Char} :
    fits (literally piece ++ more) atStart cs = true ↔
      ∃ rest, cs = piece ++ rest ∧ fits more (atStart && piece.isEmpty) rest = true := by
  induction piece generalizing atStart cs with
  | nil => simp [literally]
  | cons c piece ih =>
    cases cs with
    | nil => simp [literally, fits]
    | cons d cs =>
      rw [literally, List.map_cons, List.cons_append, fits, ← literally, Bool.and_eq_true, ih]
      constructor
      · rintro ⟨same, rest, rfl, h⟩
        obtain rfl : d = c := of_decide_eq_true same
        exact ⟨rest, rfl, by simpa using h⟩
      · rintro ⟨rest, split, h⟩
        obtain ⟨rfl, rfl⟩ := List.cons.inj split
        exact ⟨decide_eq_true rfl, rest, rfl, by simpa using h⟩

/-- On one line, what is behind the beginning fits the language of the pieces. -/
theorem fits_behind_iff {first : List Char} {ps : List (List Char)} {atStart : Bool} {cs : List Char}
    (line : '\n' ∉ cs) :
    fits (literally first ++ (behind ps ++ [.finish])) atStart cs = true ↔ Language (first :: ps) cs := by
  induction ps generalizing first atStart cs with
  | nil =>
    rw [fits_literally_iff, language_singleton_iff]
    constructor
    · rintro ⟨rest, rfl, h⟩
      change fits [.finish] _ rest = true at h
      rw [fits, Bool.and_eq_true, Bool.or_eq_true, decide_eq_true_eq, decide_eq_true_eq] at h
      obtain ⟨rfl | rfl, -⟩ := h
      · exact List.append_nil first
      · exact absurd (List.mem_append_right _ List.mem_cons_self) line
    · rintro rfl
      exact ⟨[], (List.append_nil _).symm, rfl⟩
  | cons p ps ih =>
    -- A run of any characters is the gap before the next piece; no line break is in its way.
    have next {atStart : Bool} {rest : List Char} (line : '\n' ∉ rest) :
        fits (behind (p :: ps) ++ [.finish]) atStart rest = true ↔
          ∃ gap tail, rest = gap ++ tail ∧ Language (p :: ps) tail := by
      rw [behind, List.flatMap_cons, ← behind, List.cons_append, List.cons_append, List.append_assoc, fits, runs_iff]
      refine exists₂_congr fun gap tail => ?_
      constructor
      · rintro ⟨rfl, -, h⟩
        exact ⟨rfl, (ih fun mem => line (List.mem_append_right _ mem)).mp h⟩
      · rintro ⟨rfl, language⟩
        refine ⟨rfl, fun c mem => ?_, (ih fun mem => line (List.mem_append_right _ mem)).mpr language⟩
        exact decide_eq_true fun same => line (List.mem_append_left _ (same ▸ mem))
    rw [fits_literally_iff, language_cons_iff (List.cons_ne_nil _ _)]
    constructor
    · rintro ⟨rest, rfl, h⟩
      obtain ⟨gap, tail, rfl, language⟩ := (next fun mem => line (List.mem_append_right _ mem)).mp h
      exact ⟨gap, tail, (List.append_assoc _ _ _).symm, language⟩
    · rintro ⟨gap, tail, rfl, language⟩
      rw [List.append_assoc] at line
      refine ⟨gap ++ tail, List.append_assoc _ _ _, ?_⟩
      exact (next fun mem => line (List.mem_append_right _ mem)).mpr ⟨gap, tail, rfl, language⟩

theorem fits_partsOf_iff {first : List Char} {ps : List (List Char)} {cs : List Char} (line : '\n' ∉ cs) :
    fits (partsOf first ps) true cs = true ↔ Language (first :: ps) cs := by
  rw [partsOf, fits, Bool.true_and, fits_behind_iff line]

/-- What begins with the beginning of a text is found there or nowhere. -/
theorem found_start (parts : List Part) (cs : List Char) :
    found (.start :: parts) true cs = fits (.start :: parts) true cs := by
  have nowhere (cs : List Char) : found (.start :: parts) false cs = false := by
    induction cs with
    | nil => rfl
    | cons c cs ih => rw [found, ih, fits, Bool.false_and, Bool.or_false]
  cases cs with
  | nil => rfl
  | cons c cs => rw [found, nowhere, Bool.or_false]

end Expression

/-- A pattern within the limits compiles, and what is displayed for it can be read as a regular expression. On a URL of
one line the two agree, whether the expression is to match from the beginning or to be found anywhere. -/
theorem regex_equivalent {limits : Limits} {m : Matcher} (used : m.Reached limits) {pattern url : String}
    (short : (pattern.toList.length : Int) ≤ limits.maxLength)
    (few : (pattern.toList.count '*' : Int) ≤ limits.maxStars) (line : '\n' ∉ url.toList) :
    ∃ c m' said verdict parts, m.compile (.str pattern) = .ok (c, m', said) ∧ c.hits (.str url) = .ok verdict ∧
      Expression.read? (regex pattern) = some parts ∧
      (verdict = true ↔ Expression.fits parts true url.toList = true) ∧
      (verdict = true ↔ Expression.found parts true url.toList = true) := by
  obtain ⟨c, m', said, compiled⟩ := m.exists_compile_str pattern
  obtain ⟨same, sound⟩ := used.sound
  obtain ⟨rfl, -, -⟩ := sound.compile compiled
  have taken : compileNew m.limits (.str pattern) = .ok (pieces pattern.toList) := by
    rw [compileNew, same, if_neg (Int.not_lt.mpr short), if_neg (Int.not_lt.mpr few)]
  obtain ⟨first, ps, noStar, noStars, joined⟩ := exists_pieces pattern.toList
  have cut := pieces_joined noStar noStars
  rw [← joined] at cut
  rw [taken, cut] at compiled
  have agree : hits (first :: ps) url.toList = true ↔
      Expression.fits (Expression.partsOf first ps) true url.toList = true := by
    rw [hits_iff_language, Expression.fits_partsOf_iff line]
  refine ⟨_, m', said, _, _, compiled, rfl, Expression.read?_regex cut, agree, ?_⟩
  rw [agree, Expression.partsOf, Expression.found_start]

/-- A pattern with characters that mean something else in regular expressions. -/
theorem regex_equivalent_query :
    (Matcher.new {}).Reached {} ∧ regex "*.a.b/?q=*" = "^.*\\.a\\.b/\\?q=.*$" ∧
      ∃ c m' said verdict parts, (Matcher.new {}).compile (.str "*.a.b/?q=*") = .ok (c, m', said) ∧
        c.hits (.str "x.a.b/?q=1") = .ok verdict ∧ Expression.read? (regex "*.a.b/?q=*") = some parts ∧
        (verdict = true ↔ Expression.fits parts true "x.a.b/?q=1".toList = true) ∧
        (verdict = true ↔ Expression.found parts true "x.a.b/?q=1".toList = true) :=
  ⟨.new, by decide, regex_equivalent .new (by decide) (by decide) (by decide)⟩

/-- A dot is no line feed, but a star is. -/
example : hits (pieces "a*b".toList) "a\nb".toList = true ∧
    (Expression.read? (regex "a*b")).map (Expression.fits · true "a\nb".toList) = some false := by decide

end Userscript.Glob
