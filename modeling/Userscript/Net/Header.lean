import Userscript.Json.Value
import Userscript.Text.Quoted

/-!
# Userscript.Net.Header

The headers of requests and responses: names without regard to letter case, in the order in which they came.

* `Header.ofPairs` refuses names and values beyond ASCII;
* `Header.joined` gives each name once, with all its values;
* `Header.render` is one line for each name.
-/

namespace Userscript.Net

/-- Headers by name, in small letters. A name may come more than once. -/
abbrev Headers := List (String × String)

namespace Header

/-- A text in small letters, for ASCII. -/
def lowered (s : String) : String := String.ofList (s.toList.map Char.toLower)

/-- Why a text cannot be sent: from where to where it is not ASCII. -/
def beyondAscii? (s : String) : Option String :=
  let isPlain (c : Char) : Bool := c.toNat < 128
  let front := s.toList.takeWhile isPlain
  match s.toList.drop front.length with
  | [] => none
  | c :: rest =>
    let more := (rest.takeWhile fun c => !isPlain c).length
    let first := front.length
    some ("'ascii' codec can't encode character" ++
      (if more = 0 then " '" ++ Text.escapeBeyondAscii (String.singleton c) ++ "' in position " ++ toString first
        else "s in position " ++ toString first ++ "-" ++ toString (first + more)) ++
      ": ordinal not in range(128)")

/-- A header as it is sent, or why it cannot be. -/
def ofPair (name value : String) : Except String (String × String) :=
  match beyondAscii? name <|> beyondAscii? value with
  | some problem => .error problem
  | none => .ok (lowered name, value)

/-- Headers as they are sent, or why they cannot be. -/
def ofPairs (pairs : List (String × String)) : Except String Headers :=
  pairs.mapM fun (name, value) => ofPair name value

def has (name : String) (h : Headers) : Bool := h.any (·.1 = name)

def erase (name : String) (h : Headers) : Headers := h.filter (·.1 ≠ name)

/-- Headers with others instead of those of the same names. -/
def update (h others : Headers) : Headers :=
  (h.filter fun p => !has p.1 others) ++ others

def set (name value : String) : Headers → Headers
  | [] => [(name, value)]
  | (n, v) :: rest => if n = name then (name, value) :: erase name rest else (n, v) :: set name value rest

/-- Each name once, at its first place, with all its values. -/
def joined (h : Headers) : Fields String :=
  h.foldl (fun out (name, value) =>
    match Fields.get? name out with
    | some before => Fields.set name (before ++ ", " ++ value) out
    | none => out ++ [(name, value)]) []

def get? (name : String) (h : Headers) : Option String := Fields.get? name (joined h)

/-- One line for each name. -/
def render (h : Headers) : String :=
  String.intercalate "\n" ((joined h).map fun (name, value) => name ++ ": " ++ value)

end Header
end Userscript.Net
