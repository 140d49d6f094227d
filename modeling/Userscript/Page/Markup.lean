import Userscript.Text.Pieces

/-!
# Userscript.Page.Markup

The little that the engine knows of HTML: text is escaped, and something is put in front of a closing tag.

* `closesAt` tells whether a closing tag of a name begins a text;
* `closing?` is the place of the first one;
* `insertAt` puts a fragment at a place of a text.
-/

namespace Userscript.Page

/-- A character as it is written in markup. -/
def escapeChar : Char → List Char
  | '&' => "&amp;".toList
  | '<' => "&lt;".toList
  | '>' => "&gt;".toList
  | '"' => "&quot;".toList
  | '\'' => "&#x27;".toList
  | c => [c]

/-- A text as it is written in markup. -/
def escape (s : String) : String := String.ofList (s.toList.flatMap escapeChar)

/-- What follows a name in any letter case at the start of a text; the name is in small letters. -/
def afterName? : List Char → List Char → Option (List Char)
  | [], cs => some cs
  | _ :: _, [] => none
  | n :: ns, c :: cs => if c.toLower = n then afterName? ns cs else none

/-- Whether a closing tag begins a text; white space may stand behind its name. -/
def closesAt (name : List Char) : List Char → Bool
  | '<' :: '/' :: cs =>
    match afterName? name cs with
    | some rest => (rest.dropWhile Text.isBlank).head? = some '>'
    | none => false
  | _ => false

/-- The place of the first closing tag, counted from `place`. -/
def closingFrom? (name : List Char) (place : Nat) : List Char → Option Nat
  | [] => none
  | c :: cs => if closesAt name (c :: cs) then some place else closingFrom? name (place + 1) cs

/-- The place of the first closing tag of a name. -/
def closing? (name : String) (cs : List Char) : Option Nat := closingFrom? name.toList 0 cs

/-- A text with a fragment at a place. -/
def insertAt (place : Nat) (fragment cs : List Char) : List Char :=
  cs.take place ++ fragment ++ cs.drop place

end Userscript.Page
