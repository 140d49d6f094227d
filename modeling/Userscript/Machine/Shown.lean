import Userscript.Datum
import Userscript.Machine.Kinds
import Userscript.Machine.Members

/-!
# Userscript.Machine.Shown

Values as data and as text.

`Memory.datum` is a value as a tree of data: objects are opened, and an object met inside itself is a leaf.
The texts of values are those of their data. A value has none if there is an integer in it with too many digits
(`Memory.isWritable`).
-/

namespace Userscript.Machine

def openDepth : Nat := 1000

/-- The text of a place in memory. -/
def placeText (r : Ref) : String := "0x" ++ Text.hex 12 (0x7f0000000000 + 16 * r)

def imaginaryText (x : Binary64) : String :=
  let s := x.text
  (if s.endsWith ".0" then (s.dropEnd 2).toString else s) ++ "j"

/-- The text of a function of a page. -/
def functionText (path : String) (r : Ref) : String := "<function " ++ path ++ " at " ++ placeText r ++ ">"

/-- The texts of the arguments of an error, given their data: its text inside lists, and on its own. -/
def errorTexts (kind : String) (arguments : List Datum) : String × String :=
  match arguments with
  | [] => (kind ++ "()", "")
  | [v] => (kind ++ "(" ++ v.shown ++ ")", if kind = "KeyError" then v.shown else v.display)
  | vs => (kind ++ (Datum.tuple vs).shown, (Datum.tuple vs).shown)

namespace Memory

/-- A value as data; `inside` are the objects that hold it. -/
def datumIn (m : Memory) : Nat → List Ref → Value → Datum
  | 0, _, _ => .again "..."
  | fuel + 1, inside, v =>
    let other (text : String) : Datum := .other (m.typeName v) text
    let many (vs : List Value) : List Datum := vs.map (datumIn m fuel inside)
    match v with
    | .none => .none
    | .bool b => .bool b
    | .int n => .int n
    | .num x => .num x
    | .str s => .str s
    | .bytes bs => .bytes bs
    | .tuple items => .tuple (many items)
    | .ellipsis => other "Ellipsis"
    | .notImplemented => other "NotImplemented"
    | .imaginary x => other (imaginaryText x)
    | .slice a b c => other ("slice" ++ (Datum.tuple (many [a, b, c])).shown)
    | .range a b c =>
      other ("range(" ++ toString a ++ ", " ++ toString b ++ (if c = 1 then "" else ", " ++ toString c) ++ ")")
    | .type name => other ("<class '" ++ name ++ "'>")
    | .builtin .print => other (functionText "_script_print.<locals>.print" 0)
    | .builtin b => other ("<built-in function " ++ b.name ++ ">")
    | .method receiver name =>
      other ("<built-in method " ++ name ++ " of " ++ m.typeName receiver ++ " object at " ++ placeText 0 ++ ">")
    | .capability c => other (functionText ("build_capabilities.<locals>." ++ c.name) 0)
    | .foreign n => other (functionText "<lambda>" n)
    | .ref r =>
      let within (vs : List Value) : List Datum := vs.map (datumIn m fuel (r :: inside))
      match m.get? r with
      | none => other ""
      | some (.list items) =>
        if inside.contains r then .again "[...]" else .list (within items)
      | some (.dict entries) =>
        if inside.contains r then .again "\x7b...\x7d"
        else .dict (entries.map fun e =>
          (datumIn m fuel (r :: inside) e.1, datumIn m fuel (r :: inside) e.2))
      | some (.set frozen items) =>
        let body :=
          if items.isEmpty then "" else "\x7b" ++ Datum.shownItems (within (Members.inOrder items)) ++ "\x7d"
        other (if frozen then "frozenset(" ++ body ++ ")" else if items.isEmpty then "set()" else body)
      | some (.function s ..) => other (functionText s.path r)
      | some (.generator s _) =>
        other ("<generator object " ++ s.path ++ " at " ++ placeText r ++ ">")
      | some (.iterator it) => other ("<" ++ it.typeName ++ " object at " ++ placeText r ++ ">")
      | some (.view part d) =>
        match m.get? d with
        | some (.dict entries) =>
          let items := match part with
            | .keys => entries.map (·.1)
            | .values => entries.map (·.2)
            | .items => entries.map fun e => .tuple [e.1, e.2]
          other (part.typeName ++ "([" ++ Datum.shownItems (within items) ++ "])")
        | _ => other ""
      | some (.error kind arguments _) =>
        let (shown, display) := errorTexts kind (within arguments)
        .fault kind shown display
      | some (.style fields) =>
        let field (name : String) : Datum :=
          ((Fields.get? name fields).map (datumIn m fuel (r :: inside))).getD .none
        .style (field "node_id") ("StyleNode(css=" ++ (field "css").shown ++ ", owner_script_id=" ++
          (field "owner_script_id").shown ++ ", node_id=" ++ (field "node_id").shown ++ ")")
      | some (.cell _) => other "<cell>"
      | some (.waiting s) => other ("<coroutine object " ++ s.path ++ " at " ++ placeText r ++ ">")

def datum (m : Memory) (v : Value) : Datum := m.datumIn openDepth [] v

/-- Whether every integer in the text of a value can be written; `inside` are the objects that hold it. -/
def writableIn (m : Memory) : Nat → List Ref → Value → Bool
  | 0, _, _ => true
  | fuel + 1, inside, v =>
    match v with
    | .int n => (Datum.int n).isWritable
    | .tuple items => items.all (writableIn m fuel inside)
    | .slice a b c => [a, b, c].all (writableIn m fuel inside)
    | .range a b c => [a, b, c].all fun n => (Datum.int n).isWritable
    | .ref r =>
      let within (vs : List Value) : Bool := vs.all (writableIn m fuel (r :: inside))
      match m.get? r with
      | some (.list items) => inside.contains r || within items
      | some (.dict entries) => inside.contains r || entries.all fun e =>
        writableIn m fuel (r :: inside) e.1 && writableIn m fuel (r :: inside) e.2
      | some (.set _ items) => within items
      | some (.view part d) =>
        match m.get? d with
        | some (.dict entries) => entries.all fun e =>
          (part = .values || writableIn m fuel (r :: inside) e.1) &&
            (part = .keys || writableIn m fuel (r :: inside) e.2)
        | _ => true
      | some (.error _ arguments _) => within arguments
      | some (.style fields) => within (["css", "owner_script_id", "node_id"].filterMap (Fields.get? · fields))
      | _ => true
    | _ => true

/-- Whether every integer in the text of a value can be written. -/
def isWritable (m : Memory) (v : Value) : Bool := m.writableIn openDepth [] v

/-- The text of a value inside lists. -/
def shown (m : Memory) (v : Value) : String := (m.datum v).shown

/-- The text of a value on its own. -/
def display (m : Memory) (v : Value) : String :=
  match v with
  | .str s => s
  | v => (m.datum v).display

/-- The text of an error with the name of its kind. -/
def described (m : Memory) (e : Value) : String :=
  let text := m.display e
  if text = "" then m.typeName e else m.typeName e ++ ": " ++ text

end Memory
end Userscript.Machine
