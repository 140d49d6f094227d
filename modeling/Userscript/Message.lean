import Userscript.Catalog.Script

/-!
# Userscript.Message

The messages between a page host and the engine, and the rules for their fields.

* `Payload` is a script on its way to a host; it is stricter than a stored script.
* `SelectRequest`, `SelectReply` and `RunReport` are the messages themselves.

A reader of a field gives the value or complaints, each with the place in the message and the rule
that is broken. Complaints of several fields add up in the order of the fields. A number or a text may
stand for an integer or a truth value, but nothing else for text.
-/

namespace Userscript.Message

/-- A value, or what is wrong with it. -/
abbrev Checked (α : Type) := Except (List Complaint) α

def broken {α : Type} (rule : String) : Checked α := .error [⟨[], rule⟩]

def within {α : Type} (place : Place) : Checked α → Checked α
  | .ok v => .ok v
  | .error cs => .error (cs.map fun c => { c with path := place :: c.path })

/-- Gives a further field to what is built from fields; the complaints of both are kept. -/
def give {α β : Type} (x : Checked α) (f : Checked (α → β)) : Checked β :=
  match f, x with
  | .ok f, .ok v => .ok (f v)
  | .ok _, .error cs => .error cs
  | .error cs, .ok _ => .error cs
  | .error cs, .error ds => .error (cs ++ ds)

def isSpace (c : Char) : Bool := Text.isBlank c && !(28 ≤ c.toNat && c.toNat ≤ 31)

/-- The integer that a text stands for: white space around it, a sign, single low lines between
digits, and a fraction of zeros are allowed. -/
def integerText? (s : String) : Option Int :=
  let body := ((s.toList.dropWhile isSpace).reverse.dropWhile isSpace).reverse
  let (negative, ds) := Number.splitSign body
  let whole := ds.takeWhile (· ≠ '.')
  let fraction := (ds.drop whole.length).drop 1
  if fraction.all (· = '0') && whole.all (fun c => c.isDigit || c = '_') then
    (Number.digitValues? whole).map fun vs =>
      if negative then -(Number.ofDigits vs : Int) else Number.ofDigits vs
  else none

/-- The integers that numbers and truth values are read through. -/
def isMachineInt (n : Int) : Bool := -0x8000000000000000 < n && n < 0x8000000000000000

def integer : Json → Checked Int
  | .bool b => .ok (if b then 1 else 0)
  | .int n => .ok n
  | .num x =>
    match x.integral? with
    | some n => if isMachineInt n then .ok n else broken "int_parsing_size"
    | none => if x.isFinite then broken "int_from_float" else broken "finite_number"
  | .str s =>
    if Number.digitLimit < s.utf8ByteSize then broken "int_parsing_size"
    else match integerText? s with
      | some n => .ok n
      | none => broken "int_parsing"
  | _ => broken "int_type"

/-- The truth value that a word stands for. -/
def truthWord? (s : String) : Option Bool :=
  let w := s.toLower
  if ["0", "off", "f", "false", "n", "no"].contains w then some false
  else if ["1", "on", "t", "true", "y", "yes"].contains w then some true
  else none

/-- The truth value that an integer stands for. -/
def truthNumber (n : Int) : Checked Bool :=
  if n = 0 then .ok false
  else if n = 1 then .ok true
  else broken (if isMachineInt n then "bool_parsing" else "bool_type")

def truth : Json → Checked Bool
  | .bool b => .ok b
  | .int n => truthNumber n
  | .num x =>
    match x.integral? with
    | some n => truthNumber n
    | none => broken "bool_type"
  | .str s =>
    match truthWord? s with
    | some b => .ok b
    | none => broken "bool_parsing"
  | _ => broken "bool_type"

def text : Json → Checked String
  | .str s => .ok s
  | _ => broken "string_type"

def optional {α : Type} (check : Json → Checked α) : Json → Checked (Option α)
  | .null => .ok none
  | v => (check v).map some

/-- The items of a list, each checked; complaints carry the index. -/
def itemsFrom {α : Type} (check : Json → Checked α) (index : Nat) : List Json → Checked (List α)
  | [] => .ok []
  | v :: rest =>
    give (itemsFrom check (index + 1) rest) ((within (.index index) (check v)).map List.cons)

def list {α : Type} (check : Json → Checked α) : Json → Checked (List α)
  | .arr items => itemsFrom check 0 items
  | _ => broken "list_type"

def word (w : String) : Json → Checked Unit
  | .str s => if s = w then .ok () else broken "literal_error"
  | _ => broken "literal_error"

def phase : Json → Checked Phase
  | .str s =>
    match Phase.ofName? s with
    | some p => .ok p
    | none => broken "enum"
  | _ => broken "enum"

def field {α : Type} (name : String) (default : α) (check : Json → Checked α)
    (fields : Fields Json) : Checked α :=
  match Fields.get? name fields with
  | none => .ok default
  | some v => within (.name name) (check v)

def required {α : Type} (name : String) (check : Json → Checked α) (fields : Fields Json) :
    Checked α :=
  match Fields.get? name fields with
  | none => .error [⟨[.name name], "missing"⟩]
  | some v => within (.name name) (check v)

def fieldsOf {α : Type} (check : Fields Json → Checked α) : Json → Checked α
  | .obj fields => check fields
  | _ => broken "model_type"

/-- A script on its way to a host. -/
structure Payload where
  id : Option Int
  name : String
  code : String
  matchPatterns : List String
  includePatterns : List String
  excludePatterns : List String
  runAt : Option String
  enabled : Option Bool
  version : Option String
deriving DecidableEq

def orNull {α : Type} (f : α → Json) : Option α → Json
  | none => .null
  | some v => f v

namespace Payload

/-- A payload from the fields of an object. -/
def ofFields (fields : Fields Json) : Checked Payload :=
  (.ok Payload.mk)
    |> give (field "id" none (optional integer) fields)
    |> give (field "name" "" text fields)
    |> give (field "code" "" text fields)
    |> give (field "matches" [] (list text) fields)
    |> give (field "includes" [] (list text) fields)
    |> give (field "excludes" [] (list text) fields)
    |> give (field "runAt" none (optional text) fields)
    |> give (field "enabled" none (optional truth) fields)
    |> give (field "version" none (optional text) fields)

def ofJson : Json → Checked Payload := fieldsOf ofFields

def ofScript (s : Script) : Checked Payload := ofFields s.toFields

def toJson (p : Payload) : Json :=
  .obj [("id", orNull .int p.id), ("name", .str p.name), ("code", .str p.code),
    ("matches", Script.ofTexts p.matchPatterns), ("includes", Script.ofTexts p.includePatterns),
    ("excludes", Script.ofTexts p.excludePatterns), ("runAt", orNull .str p.runAt),
    ("enabled", orNull .bool p.enabled), ("version", orNull .str p.version)]

def toScript (p : Payload) : Except Fault Script := Script.ofJson p.toJson

end Payload

/-- A host asks for the batch of a page in a phase. -/
structure SelectRequest where
  url : String
  phase : Phase
deriving DecidableEq

namespace SelectRequest

def kind : String := "selectForPhase"

def ofJson : Json → Checked SelectRequest :=
  fieldsOf fun fields =>
    (.ok fun (_ : Unit) => SelectRequest.mk)
      |> give (field "kind" () (word kind) fields)
      |> give (required "url" text fields)
      |> give (required "phase" Message.phase fields)

def toJson (r : SelectRequest) : Json :=
  .obj [("kind", .str kind), ("url", .str r.url), ("phase", .str r.phase.name)]

end SelectRequest

/-- The batch that a host asked for. -/
structure SelectReply where
  scripts : List Payload
deriving DecidableEq

namespace SelectReply

def ofJson : Json → Checked SelectReply :=
  fieldsOf fun fields =>
    (field "scripts" [] (list Payload.ofJson) fields).map SelectReply.mk

def toJson (r : SelectReply) : Json := .obj [("scripts", .arr (r.scripts.map Payload.toJson))]

end SelectReply

structure RunReport where
  scriptId : Int
  ok : Bool
  error : Option String
deriving DecidableEq

namespace RunReport

def kind : String := "reportRun"

def ofJson : Json → Checked RunReport :=
  fieldsOf fun fields =>
    (.ok fun (_ : Unit) => RunReport.mk)
      |> give (field "kind" () (word kind) fields)
      |> give (required "scriptId" integer fields)
      |> give (required "ok" truth fields)
      |> give (field "error" none (optional text) fields)

def toJson (r : RunReport) : Json :=
  .obj [("kind", .str kind), ("scriptId", .int r.scriptId), ("ok", .bool r.ok),
    ("error", orNull .str r.error)]

end RunReport

def orFault {α : Type} : Checked α → Except Fault α
  | .ok v => .ok v
  | .error cs => .error (.invalid cs)

end Userscript.Message
