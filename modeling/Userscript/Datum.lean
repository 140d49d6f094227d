import Userscript.Json.Text
import Userscript.Number.Numeral

/-!
# Userscript.Datum

A value of a script as seen from outside: a tree of plain data, in which containers that hold
themselves and values without a data form appear as leaves.

* `Datum.ofJson` takes in stored data;
* `Datum.shown` is the text of a value inside lists and messages, `Datum.display` its text on its
  own (they differ for text only);
* `Datum.toJson` is the value as stored data, with the reason if it has no such form.
-/

namespace Userscript

/-- A script's value as a tree of data. -/
inductive Datum where
  | none
  | bool (b : Bool)
  | int (n : Int)
  | num (x : Binary64)
  | str (s : String)
  | bytes (bs : List UInt8)
  | list (items : List Datum)
  | tuple (items : List Datum)
  | dict (entries : List (Datum × Datum))
  /-- A list or dictionary met inside itself. -/
  | again (brackets : String)
  /-- A style node of the page, by its number. -/
  | style (number : Datum) (text : String)
  /-- An error: the name of its kind, its text inside lists and its text on its own. -/
  | fault (kind shown display : String)
  /-- Any other value: the name of its type and its text. -/
  | other (type text : String)
deriving Inhabited

namespace Datum

mutual

/-- Stored data as a script sees it. -/
def ofJson : Json → Datum
  | .null => .none
  | .bool b => .bool b
  | .int n => .int n
  | .num x => .num x
  | .str s => .str s
  | .arr items => .list (ofItems items)
  | .obj fields => .dict (ofFields fields)

def ofItems : List Json → List Datum
  | [] => []
  | v :: rest => ofJson v :: ofItems rest

/-- Stored fields as a script sees them. -/
def ofFields : List (String × Json) → List (Datum × Datum)
  | [] => []
  | (k, v) :: rest => (.str k, ofJson v) :: ofFields rest

end

def boolText (b : Bool) : String := if b then "True" else "False"

mutual

/-- The text of a value inside lists and messages. -/
def shown : Datum → String
  | .none => "None"
  | .bool b => boolText b
  | .int n => toString n
  | .num x => x.text
  | .str s => Text.quote s
  | .bytes bs => Text.quoteBytes bs
  | .list items => "[" ++ shownItems items ++ "]"
  | .tuple [v] => "(" ++ shown v ++ ",)"
  | .tuple items => "(" ++ shownItems items ++ ")"
  | .dict entries => "\x7b" ++ shownEntries entries ++ "\x7d"
  | .again brackets => brackets
  | .style _ text => text
  | .fault _ shown _ => shown
  | .other _ text => text

/-- The texts of values, separated by commas. -/
def shownItems : List Datum → String
  | [] => ""
  | [v] => shown v
  | v :: rest => shown v ++ ", " ++ shownItems rest

/-- The texts of entries, separated by commas. -/
def shownEntries : List (Datum × Datum) → String
  | [] => ""
  | [(k, v)] => shown k ++ ": " ++ shown v
  | (k, v) :: rest => shown k ++ ": " ++ shown v ++ ", " ++ shownEntries rest

end

/-- The text of a value on its own. -/
def display : Datum → String
  | .str s => s
  | .fault _ _ display => display
  | v => shown v

mutual

/-- Whether every integer in the text of a value can be written. -/
def isWritable : Datum → Bool
  | .int n => (Number.writeInt n).isOk
  | .list items | .tuple items => areWritable items
  | .dict entries => entriesAreWritable entries
  | _ => true

/-- Whether every integer in the texts of values can be written. -/
def areWritable : List Datum → Bool
  | [] => true
  | v :: rest => isWritable v && areWritable rest

/-- Whether every integer in the texts of entries can be written. -/
def entriesAreWritable : List (Datum × Datum) → Bool
  | [] => true
  | (k, v) :: rest => isWritable k && isWritable v && entriesAreWritable rest

end

def typeName : Datum → String
  | .none => "NoneType"
  | .bool _ => "bool"
  | .int _ => "int"
  | .num _ => "float"
  | .str _ => "str"
  | .bytes _ => "bytes"
  | .list _ => "list"
  | .tuple _ => "tuple"
  | .dict _ => "dict"
  | .again brackets => if brackets = "[...]" then "list" else "dict"
  | .style .. => "StyleNode"
  | .fault kind .. => kind
  | .other type _ => type

/-- Why a value has no form as stored data. -/
inductive JsonFault where
  | noForm (type : String)
  | badKey (type : String)
  | holdsItself
  | unwritable

/-- Whether the fault lies in the kind of a value, not in the value. -/
def JsonFault.isKind : JsonFault → Bool
  | .noForm _ | .badKey _ => true
  | .holdsItself | .unwritable => false

def JsonFault.message : JsonFault → String
  | .noForm type => "Object of type " ++ type ++ " is not JSON serializable"
  | .badKey type => "keys must be str, int, float, bool or None, not " ++ type
  | .holdsItself => "Circular reference detected"
  | .unwritable => Number.NumeralFault.unwritable.message

/-- An integer, unless it has too many digits to be written. -/
def writable (n : Int) : Except JsonFault Int :=
  match Number.writeInt n with
  | .ok _ => .ok n
  | .error _ => .error .unwritable

/-- The name of the field that a key stands for. -/
def keyText : Datum → Except JsonFault String
  | .none => .ok "null"
  | .bool b => .ok (if b then "true" else "false")
  | .int n => (writable n).map toString
  | .num x => .ok (Json.numberText x)
  | .str s => .ok s
  | v => .error (.badKey v.typeName)

mutual

/-- The value as stored data: tuples become lists, and keys the names of fields. Keys with one text
stay fields of their own. -/
def toJson : Datum → Except JsonFault Json
  | .none => .ok .null
  | .bool b => .ok (.bool b)
  | .int n => (writable n).map .int
  | .num x => .ok (.num x)
  | .str s => .ok (.str s)
  | .list items => (itemsToJson items).map .arr
  | .tuple items => (itemsToJson items).map .arr
  | .dict entries => (entriesToJson entries).map .obj
  | .again _ => .error .holdsItself
  | v => .error (.noForm v.typeName)

/-- Values as stored data, up to the first that has no such form. -/
def itemsToJson : List Datum → Except JsonFault (List Json)
  | [] => .ok []
  | v :: rest =>
    match toJson v with
    | .error e => .error e
    | .ok j => (itemsToJson rest).map (j :: ·)

/-- Entries as stored fields, up to the first that has no such form. -/
def entriesToJson : List (Datum × Datum) → Except JsonFault (List (String × Json))
  | [] => .ok []
  | (k, v) :: rest =>
    match keyText k with
    | .error e => .error e
    | .ok name =>
      match toJson v with
      | .error e => .error e
      | .ok j => (entriesToJson rest).map ((name, j) :: ·)

end
end Datum

/-- The text of stored data on its own, as messages show it. -/
def Json.display (v : Json) : String := (Datum.ofJson v).display

/-- The text of stored data inside lists and messages. -/
def Json.shown (v : Json) : String := (Datum.ofJson v).shown

end Userscript
