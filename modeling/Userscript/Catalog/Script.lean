import Userscript.Datum
import Userscript.Fault
import Userscript.Phase
import Userscript.Text.Blank

/-!
# Userscript.Catalog.Script

A script as the catalog holds it, and its form as stored data.

`Script.ofJson` reads a script from data written by anyone: fields may be missing, patterns may come
as lines of text or as a list of anything, an id as a number or as text. `Script.toJson` writes it.
What is read is normal: reading what was written gives the same script.
-/

namespace Userscript

/-- A script of the catalog. Its code, its wish when to run, its switch and its version are kept as
they came, if they count as present. -/
structure Script where
  id : Option Int := none
  name : String := ""
  code : Json := .str ""
  matchPatterns : List String := []
  includePatterns : List String := []
  excludePatterns : List String := []
  runAt : Json := .null
  enabled : Json := .null
  version : Json := .null
deriving Inhabited

/-- The integer that a value stands for: a fraction is dropped, text is read as a numeral. -/
def Json.toInt : Json → Except Fault Int
  | .bool b => .ok (if b then 1 else 0)
  | .int n => .ok n
  | .num x =>
    match x.trunc? with
    | some n => .ok n
    | none =>
      if x.isNaN then .error (.badValue "cannot convert float NaN to integer")
      else .error (.outOfRange "cannot convert float infinity to integer")
  | .str s =>
    match Number.readInt s with
    | .ok n => .ok n
    | .error e => .error (.badValue e.message)
  | _ => .error .wrongKind

/-- The items that a value consists of: those of a list, the names of an object, the characters of a
text. -/
def Json.items : Json → Except Fault (List Json)
  | .arr items => .ok items
  | .obj fields => .ok (fields.map fun f => .str f.1)
  | .str s => .ok (s.toList.map fun c => .str (String.singleton c))
  | _ => .error .wrongKind

namespace Script

/-- Patterns as they may be stored: lines of text, of which blank ones are none, or a list, whose
entries are all kept. -/
def patternsOf (v : Json) : Except Fault (List String) :=
  if !v.truthy then .ok []
  else match v with
    | .str s => .ok (((Text.lines s).map Text.trim).filter (· ≠ ""))
    | v => v.items.map fun items => items.map fun p => Text.trim p.display

def ofJson : Json → Except Fault Script
  | .obj fields => do
    let id ← match Json.field "id" fields with
      | .null => pure none
      | v => some <$> v.toInt
    let matchPatterns ← patternsOf (Json.field "matches" fields)
    let includePatterns ← patternsOf (Json.field "includes" fields)
    let excludePatterns ← patternsOf (Json.field "excludes" fields)
    return {
      id := id
      name := ((Json.field "name" fields).orElse (.str "")).display
      code := (Json.field "code" fields).orElse (.str "")
      matchPatterns := matchPatterns
      includePatterns := includePatterns
      excludePatterns := excludePatterns
      runAt := (Json.field "runAt" fields).orElse
        ((Json.field "run_at" fields).orElse .null)
      enabled := Json.field "enabled" fields
      version := Json.field "version" fields }
  | _ => .error .lacking

def ofTexts (texts : List String) : Json := .arr (texts.map .str)

/-- The fields of a script as stored data; a version only if there is one. -/
def toFields (s : Script) : Fields Json :=
  [("id", match s.id with
      | some n => .int n
      | none => .null),
    ("name", .str s.name), ("code", s.code), ("matches", ofTexts s.matchPatterns),
    ("includes", ofTexts s.includePatterns), ("excludes", ofTexts s.excludePatterns), ("runAt", s.runAt),
    ("enabled", s.enabled)] ++
  match s.version with
  | .null => []
  | v => [("version", v)]

def toJson (s : Script) : Json := .obj s.toFields

def wish (s : Script) : Json := Phase.wishOf s.runAt

/-- Only an explicit `false` switches a script off. -/
def isEnabled (s : Script) : Bool :=
  match s.enabled with
  | .bool false => false
  | _ => true

/-- Whether there is anything to run. -/
def hasCode (s : Script) : Bool := s.code.truthy

end Script
end Userscript
