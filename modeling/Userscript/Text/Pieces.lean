import Userscript.Text.Blank

/-!
# Userscript.Text.Pieces

Texts taken apart at separators or at blanks, and pieces of text found and replaced.

A piece is looked for from the left, and the search goes on behind it, so that what is found does not overlap.
-/

namespace Userscript.Text

/-- What follows a piece at the start of a text. -/
def after? : List Char → List Char → Option (List Char)
  | [], cs => some cs
  | _ :: _, [] => none
  | p :: ps, c :: cs => if p = c then after? ps cs else none

/-- The parts of a text between separators, which are not empty; `part` is what was passed since the last one,
last first. After `limit` separators no more are looked for. -/
def partsAt (separator : List Char) : Nat → Nat → List Char → List Char → List (List Char)
  | 0, _, part, cs => [part.reverse ++ cs]
  | _, _, part, [] => [part.reverse]
  | fuel + 1, 0, part, cs => partsAt separator fuel 0 (cs.reverse ++ part) []
  | fuel + 1, limit + 1, part, c :: cs =>
    match after? separator (c :: cs) with
    | some rest => part.reverse :: partsAt separator fuel limit [] rest
    | none => partsAt separator fuel (limit + 1) (c :: part) cs

/-- The parts of a text between separators, which are not empty. After `limit` separators no more are looked
for. -/
def splitAt (separator : List Char) (limit : Nat) (cs : List Char) : List (List Char) :=
  partsAt separator (cs.length + 2) limit [] cs

/-- Pieces with a text between each two. -/
def joinWith (between : List Char) : List (List Char) → List Char
  | [] => []
  | [p] => p
  | p :: rest => p ++ between ++ joinWith between rest

/-- The text with a piece replaced, `limit` times at most. An empty piece stands before every character and at
the end. -/
def replace (old new : List Char) (limit : Nat) (cs : List Char) : List Char :=
  if old.isEmpty then
    (cs.take limit).flatMap (fun c => new ++ [c]) ++
      (if cs.length < limit then new else cs.drop limit)
  else joinWith new (splitAt old limit cs)

/-- The text with every occurrence of a piece replaced. -/
def replaceAll (old new : String) (s : String) : String :=
  String.ofList (replace old.toList new.toList (s.length + 1) s.toList)

/-- The words of a text, with blanks between them. After `limit` words the rest is one piece, without the blanks
before it. -/
def wordsFrom : Nat → Nat → List Char → List (List Char)
  | 0, _, _ => []
  | fuel + 1, limit, cs =>
    match cs.dropWhile isBlank with
    | [] => []
    | c :: rest =>
      match limit with
      | 0 => [c :: rest]
      | limit + 1 =>
        let word := (c :: rest).takeWhile fun c => !isBlank c
        word :: wordsFrom fuel limit ((c :: rest).drop word.length)

/-- The words of a text, with blanks between them. -/
def words (limit : Nat) (cs : List Char) : List (List Char) := wordsFrom (cs.length + 1) limit cs

/-- The place of the first occurrence of a piece at or after the place `at'`. -/
def find? (piece : List Char) : Nat → List Char → Option Nat
  | place, [] => if piece.isEmpty then some place else none
  | place, c :: cs =>
    if (after? piece (c :: cs)).isSome then some place else find? piece (place + 1) cs

def holds (piece s : String) : Bool := (find? piece.toList 0 s.toList).isSome

/-- The place of the last occurrence of a piece. -/
def findLast? (piece cs : List Char) : Option Nat :=
  (find? piece.reverse 0 cs.reverse).map fun n => cs.length - n - piece.length

/-- How often a piece occurs. An empty one stands before every character and at the end. -/
def occurrences (piece cs : List Char) : Nat :=
  if piece.isEmpty then cs.length + 1 else (splitAt piece (cs.length + 1) cs).length - 1

end Userscript.Text
