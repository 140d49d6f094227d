import Userscript.Catalog.Script
import Userscript.Text.Word

/-!
# Userscript.Metadata

The header of a script: the directives in the block between the first start marker and the first end
marker after it.

A line holds a directive if it has a `@` followed by a key of word characters and hyphens, blanks or
tabs, and a value. The first such `@` of a line counts, and a value of white space alone is none.
Repeated patterns add up in order; of a name, a version and a wish when to run the first counts.
-/

namespace Userscript.Metadata

def opening : String := "==UserScript=="

def closing : String := "==/UserScript=="

/-- The name of a script that gives none. -/
def defaultName : String := "Imported userscript"

/-- The rest after a text that starts with `mark`. -/
def afterMark? : List Char → List Char → Option (List Char)
  | [], text => some text
  | _ :: _, [] => none
  | m :: ms, c :: cs => if m = c then afterMark? ms cs else none

/-- What follows the first `mark` in a text. -/
def afterFirstMark? (mark : List Char) : List Char → Option (List Char)
  | [] => afterMark? mark []
  | c :: cs =>
    match afterMark? mark (c :: cs) with
    | some rest => some rest
    | none => afterFirstMark? mark cs

/-- What stands before the first `mark` in a text; `front` is what was passed, last first. -/
def beforeFirstMark? (mark : List Char) (front : List Char) : List Char → Option (List Char)
  | [] => if mark.isEmpty then some front.reverse else none
  | c :: cs =>
    match afterMark? mark (c :: cs) with
    | some _ => some front.reverse
    | none => beforeFirstMark? mark (c :: front) cs

/-- The block of a source; empty if there is none. -/
def block (source : List Char) : List Char :=
  match afterFirstMark? opening.toList source with
  | none => []
  | some rest => (beforeFirstMark? closing.toList [] rest).getD []

abbrev Directive := String × String

def isKeyChar (c : Char) : Bool := Text.isWord c || c = '-'

/-- A blank between a key and its value. -/
def isGap (c : Char) : Bool := c = ' ' || c = '\t'

/-- The directive that follows a `@`, its value as written. Of blanks that nothing follows the last
one is the value. -/
def directiveAt? (cs : List Char) : Option Directive :=
  let key := cs.takeWhile isKeyChar
  let rest := cs.drop key.length
  let gap := rest.takeWhile isGap
  let value := rest.drop gap.length
  if key.isEmpty || gap.isEmpty then none
  else if !value.isEmpty then some (String.ofList key, String.ofList value)
  else if gap.length = 1 then none
  else some (String.ofList key, " ")

/-- The directive of a line, its value as written. -/
def directiveIn? : List Char → Option Directive
  | [] => none
  | c :: cs =>
    if c = '@' then
      match directiveAt? cs with
      | some d => some d
      | none => directiveIn? cs
    else directiveIn? cs

def directive? (line : String) : Option Directive := do
  let (key, value) ← directiveIn? line.toList
  let value := Text.trim value
  if value = "" then none else return (key, value)

/-- The directives of a source in order. -/
def directives (source : String) : List Directive :=
  (Text.lines (String.ofList (block source.toList))).filterMap directive?

/-- The values of a key in order. -/
def values (key : String) (ds : List Directive) : List String :=
  (ds.filter (·.1 = key)).map (·.2)

structure Header where
  name : String
  version : Option String
  runAt : String
  matchPatterns : List String
  includePatterns : List String
  excludePatterns : List String
deriving DecidableEq

/-- The header of a source, with defaults for what it does not say. -/
def header (source : String) : Header :=
  let ds := directives source
  { name := (values "name" ds).headD defaultName
    version := (values "version" ds).head?
    runAt := (values "run-at" ds).headD Phase.parsed.name
    matchPatterns := values "match" ds
    includePatterns := values "include" ds
    excludePatterns := values "exclude" ds }

/-- The header of a source as given: what counts as absent has an empty one. -/
def headerOf : Json → Except Fault Header
  | .str s => .ok (header s)
  | v => if v.truthy then .error .wrongKind else .ok (header "")

def Header.toJson (h : Header) : Json :=
  .obj [("name", .str h.name),
    ("version", match h.version with
      | some v => .str v
      | none => .null),
    ("runAt", .str h.runAt), ("matches", Script.ofTexts h.matchPatterns),
    ("includes", Script.ofTexts h.includePatterns),
    ("excludes", Script.ofTexts h.excludePatterns)]

/-- The script of a source, as its header describes it. -/
def scriptOf (source enabled : Json) : Except Fault Script :=
  (headerOf source).map fun h => {
    id := none
    name := h.name
    code := source
    matchPatterns := h.matchPatterns
    includePatterns := h.includePatterns
    excludePatterns := h.excludePatterns
    runAt := .str h.runAt
    enabled := enabled
    version := match h.version with
      | some v => .str v
      | none => .null }

end Userscript.Metadata
