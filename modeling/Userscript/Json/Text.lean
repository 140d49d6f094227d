import Userscript.Json.Value
import Userscript.Number.Shortest
import Userscript.Text.Quoted

/-!
# Userscript.Json.Text

Data written as JSON text, in ASCII: what lies outside is escaped by its UTF-16 code units.

* `Json.text` is the text on one line, with a space after each comma and colon;
* `Json.pretty` puts every item on a line of its own.
-/

namespace Userscript.Json

/-- A UTF-16 code unit as an escape. -/
def escapeUnit (n : Nat) : String := "\\u" ++ Text.hex 4 n

def escapeChar (c : Char) : String :=
  if c = '"' then "\\\""
  else if c = '\\' then "\\\\"
  else if c = '\n' then "\\n"
  else if c = '\r' then "\\r"
  else if c = '\t' then "\\t"
  else
    let n := c.toNat
    if n = 8 then "\\b"
    else if n = 12 then "\\f"
    else if 32 ≤ n && n ≤ 126 then String.singleton c
    else if n < 0x10000 then escapeUnit n
    else
      let m := n - 0x10000
      escapeUnit (0xD800 + m / 0x400) ++ escapeUnit (0xDC00 + m % 0x400)

def quoted (s : String) : String :=
  s.toList.foldl (fun out c => out ++ escapeChar c) "\"" ++ "\""

/-- A number as JSON text; what is not finite is spelled out. -/
def numberText (x : Binary64) : String :=
  match x.shape with
  | .nan => "NaN"
  | .infinite s => if s then "-Infinity" else "Infinity"
  | .finite .. => x.text

mutual

/-- The JSON text of a value on one line. -/
def text : Json → String
  | .null => "null"
  | .bool b => if b then "true" else "false"
  | .int n => toString n
  | .num x => numberText x
  | .str s => quoted s
  | .arr items => "[" ++ itemsText items ++ "]"
  | .obj fields => "\x7b" ++ fieldsText fields ++ "\x7d"

/-- The texts of values, separated by commas. -/
def itemsText : List Json → String
  | [] => ""
  | [v] => text v
  | v :: rest => text v ++ ", " ++ itemsText rest

/-- The texts of fields, separated by commas. -/
def fieldsText : List (String × Json) → String
  | [] => ""
  | [(k, v)] => quoted k ++ ": " ++ text v
  | (k, v) :: rest => quoted k ++ ": " ++ text v ++ ", " ++ fieldsText rest

end

/-- A new line with the blanks of a depth. -/
def newLine (depth : Nat) : String :=
  "\n" ++ String.ofList (List.replicate (2 * depth) ' ')

mutual

/-- The JSON text of a value with every item on a line of its own, two blanks deeper than what holds
it. -/
def pretty (depth : Nat) : Json → String
  | .arr [] => "[]"
  | .arr items => "[" ++ prettyItems (depth + 1) items ++ newLine depth ++ "]"
  | .obj [] => "\x7b\x7d"
  | .obj fields => "\x7b" ++ prettyFields (depth + 1) fields ++ newLine depth ++ "\x7d"
  | v => text v

/-- Values, each on a line of its own. -/
def prettyItems (depth : Nat) : List Json → String
  | [] => ""
  | [v] => newLine depth ++ pretty depth v
  | v :: rest => newLine depth ++ pretty depth v ++ "," ++ prettyItems depth rest

/-- Fields, each on a line of its own. -/
def prettyFields (depth : Nat) : List (String × Json) → String
  | [] => ""
  | [(k, v)] => newLine depth ++ quoted k ++ ": " ++ pretty depth v
  | (k, v) :: rest =>
    newLine depth ++ quoted k ++ ": " ++ pretty depth v ++ "," ++ prettyFields depth rest

end

mutual

/-- Whether every number is finite, so that the text is JSON by the standard. -/
def isStandard : Json → Bool
  | .num x => x.isFinite
  | .arr items => itemsStandard items
  | .obj fields => fieldsStandard fields
  | _ => true

/-- Whether every number in the values is finite. -/
def itemsStandard : List Json → Bool
  | [] => true
  | v :: rest => isStandard v && itemsStandard rest

/-- Whether every number in the fields is finite. -/
def fieldsStandard : List (String × Json) → Bool
  | [] => true
  | (_, v) :: rest => isStandard v && fieldsStandard rest

end

end Userscript.Json
