/-!
# Userscript.Glob

Patterns in which `*` stands for any run of characters, the empty one too, and every other character
for itself. A pattern has to match the whole text.

* `Glob.pieces` cuts a pattern at its stars;
* `Glob.hits` matches: the first piece starts the text, the last one ends it, and the pieces between
  follow one another in what is left, each taken at its leftmost occurrence;
* `Glob.Language` is what a list of pieces stands for, said without a search;
* `Glob.regex` is the same language as a regular expression, for display.
-/

namespace Userscript.Glob

/-- The pieces between the stars of a pattern; one more than there are stars. -/
def pieces : List Char → List (List Char)
  | [] => [[]]
  | c :: rest =>
    if c = '*' then [] :: pieces rest
    else match pieces rest with
      | [] => [[c]]
      | p :: ps => (c :: p) :: ps

/-- What is left after a text that starts with `piece`. -/
def afterStart? : List Char → List Char → Option (List Char)
  | [], text => some text
  | _ :: _, [] => none
  | p :: ps, c :: cs => if p = c then afterStart? ps cs else none

/-- What is left after the leftmost occurrence of `piece`. -/
def afterFirst? (piece : List Char) : List Char → Option (List Char)
  | [] => afterStart? piece []
  | c :: cs =>
    match afterStart? piece (c :: cs) with
    | some rest => some rest
    | none => afterFirst? piece cs

/-- Whether the pieces occur one after another, each at its leftmost place. -/
def inOrder : List (List Char) → List Char → Bool
  | [], _ => true
  | p :: ps, text =>
    match afterFirst? p text with
    | some rest => inOrder ps rest
    | none => false

/-- What is left before a text's end that is `piece`. -/
def beforeEnd? (piece text : List Char) : Option (List Char) :=
  (afterStart? piece.reverse text.reverse).map List.reverse

/-- Whether a text is in the language of the pieces. -/
def hits (pieces : List (List Char)) (text : List Char) : Bool :=
  match pieces with
  | [] => false
  | [only] => text == only
  | first :: more =>
    match afterStart? first text with
    | none => false
    | some rest =>
      match beforeEnd? (more.getLastD []) rest with
      | none => false
      | some middle => inOrder more.dropLast middle

/-- The texts that the pieces stand for: the first piece, then before every further one any run of
characters. -/
inductive Language : List (List Char) → List Char → Prop where
  | last (p : List Char) : Language [p] p
  | star {p : List Char} {ps : List (List Char)} (gap : List Char) {text : List Char} :
      Language ps text → Language (p :: ps) (p ++ gap ++ text)

/-- A character that a regular expression takes for itself only after a backslash. -/
def isSpecial (c : Char) : Bool :=
  "()[]\x7b\x7d?*+-|^$\\.&~# \t\n\r".toList.contains c || c.toNat = 11 || c.toNat = 12

/-- Characters that a regular expression takes for themselves. -/
def escape (piece : List Char) : List Char :=
  piece.flatMap fun c => if isSpecial c then ['\\', c] else [c]

/-- A regular expression of the same language on texts without line feeds. -/
def regex (pattern : String) : String :=
  let parts := (pieces pattern.toList).map fun p => String.ofList (escape p)
  "^" ++ String.intercalate ".*" parts ++ "$"

end Userscript.Glob
