import Userscript.Machine.Method.Collection
import Userscript.Machine.Method.Text
import Userscript.Page.Style

/-!
# Userscript.Machine.Attribute

Attributes and methods of values.

Style nodes, functions and errors keep attributes that scripts set; of all other values only the methods, and a
few attributes that cannot be set, can be read.
-/

namespace Userscript.Machine

open Act

def generatorNames : List String := ["close", "send", "throw"]

def methodNames (type : String) : List String :=
  match type with
  | "str" => Method.textNames
  | "bytes" => Method.bytesNames
  | "list" => Method.listNames
  | "tuple" => Method.tupleNames
  | "range" => Method.tupleNames
  | "dict" => Method.dictNames
  | "set" => Method.setNames
  | "frozenset" => Method.frozenNames
  | "generator" => generatorNames
  | "int" | "bool" => ["bit_count", "bit_length", "conjugate"]
  | "float" => ["conjugate", "is_integer"]
  | "StyleNode" => ["render"]
  | type => if isErrorType type then ["add_note", "with_traceback"] else []

/-- Attributes that values of a type have, and that cannot be set. -/
def fixedAttribute? (v : Value) (name : String) : Option Value :=
  match v, name with
  | .int n, "real" | .int n, "numerator" => some (.int n)
  | .int _, "imag" => some (.int 0)
  | .int _, "denominator" => some (.int 1)
  | .bool b, "real" | .bool b, "numerator" => some (.int (if b then 1 else 0))
  | .bool _, "imag" => some (.int 0)
  | .bool _, "denominator" => some (.int 1)
  | .num x, "real" => some (.num x)
  | .num _, "imag" => some (.num (Binary64.zero false))
  | .imaginary _, "real" => some (.num (Binary64.zero false))
  | .imaginary x, "imag" => some (.num x)
  | .slice a _ _, "start" => some a
  | .slice _ b _, "stop" => some b
  | .slice _ _ c, "step" => some c
  | .range a _ _, "start" => some (.int a)
  | .range _ b _, "stop" => some (.int b)
  | .range _ _ c, "step" => some (.int c)
  | _, _ => none

namespace Attribute

/-- Raises that a value has no such attribute. -/
def missing {α : Type} (v : Value) (name : String) : Act α := do
  match v with
  | .type type =>
    raise "AttributeError" ("type object '" ++ type ++ "' has no attribute '" ++ name ++ "'")
  | v =>
    let type ← look (·.typeName v)
    raise "AttributeError" ("'" ++ type ++ "' object has no attribute '" ++ name ++ "'")

/-- An attribute of an object that keeps attributes. -/
def ofObject? (o : Object) (name : String) : Option Value :=
  match o with
  | .style fields =>
    (Fields.get? name fields) <|> (if name = "owner_script_id" then some .none else none)
  | .function _ _ _ _ _ fields => Fields.get? name fields
  | .error kind arguments fields =>
    (Fields.get? name fields) <|>
      (if name = "args" then some (.tuple arguments)
      else if kind = "StopIteration" && name = "value" then some (arguments.headD .none)
      else if isKindOf kind "NameError" && name = "name" then some .none
      else none)
  | _ => none

/-- An attribute that a value keeps itself. -/
def own? (m : Memory) (v : Value) (name : String) : Option Value :=
  match v with
  | .ref r => (m.get? r).bind (ofObject? · name)
  | _ => none

/-- The name of the type whose methods a value has; those of a type are its own. -/
def owner (m : Memory) (v : Value) : String :=
  match v with
  | .type t => t
  | v => m.typeName v

/-- Reads an attribute that a value has by its type. -/
def ofType (v : Value) (name : String) : Act Value := do
  match fixedAttribute? v name with
  | some w => return w
  | none =>
    if (methodNames (← look (owner · v))).contains name then return .method v name else missing v name

def get (v : Value) (name : String) : Act Value := do
  match ← look (own? · v name) with
  | some w => return w
  | none => ofType v name

/-- Raises that an attribute cannot be set or deleted. -/
def refuse {α : Type} (v : Value) (name : String) : Act α := do
  match v with
  | .type type => typeError ("cannot set '" ++ name ++ "' attribute of immutable type '" ++ type ++ "'")
  | v =>
    let type ← look (·.typeName v)
    if (methodNames type).contains name then
      raise "AttributeError" ("'" ++ type ++ "' object attribute '" ++ name ++ "' is read-only")
    else match v, fixedAttribute? v name with
      | .slice .., some _ | .range .., some _ | .imaginary _, some _ =>
        raise "AttributeError" "readonly attribute"
      | _, some _ =>
        raise "AttributeError" ("attribute '" ++ name ++ "' of '" ++
          (if type = "bool" then "int" else type) ++ "' objects is not writable")
      | v, none => missing v name

def set (c : Calls) (v : Value) (name : String) (w : Value) : Act Unit := do
  match v with
  | .ref r =>
    match ← look (·.get? r) with
    | some (.style fields) => put r (.style (Fields.set name w fields))
    | some (.function s b d n cells fields) => put r (.function s b d n cells (Fields.set name w fields))
    | some (.error kind arguments fields) =>
      if name = "args" then
        let items ← Iterate.itemsOf c w
        put r (.error kind items fields)
      else put r (.error kind arguments (Fields.set name w fields))
    | _ => refuse v name
  | _ => refuse v name

def delete (v : Value) (name : String) : Act Unit := do
  let among (fields : Fields Value) (keep : Fields Value → Object) (r : Ref) : Act Unit :=
    if (Fields.get? name fields).isSome then put r (keep (Fields.erase name fields)) else missing v name
  match v with
  | .ref r =>
    match ← look (·.get? r) with
    | some (.style fields) => among fields .style r
    | some (.function s b d n cells fields) => among fields (.function s b d n cells) r
    | some (.error kind arguments fields) => among fields (.error kind arguments) r
    | _ => refuse v name
  | _ => refuse v name

end Attribute

/-- An error as a value, from a kind of error or an error. -/
def errorOf? (c : Calls) (v : Value) : Act (Option Value) := do
  match v with
  | .type t => if isErrorType t then some <$> c.call v [] [] else return none
  | v => return if ← look (·.isError v) then some v else none

namespace Method

variable (c : Calls)

/-- A style sheet that does not close its element. One that is no text has to know how to replace parts of
itself. -/
def guardSheet (css : Value) : Act Value := do
  match css with
  | .str s => return .str (Page.Style.guarded s)
  | css =>
    let replace ← Attribute.get css "replace"
    c.call replace [.str Page.Style.guardedMark.1, .str Page.Style.guardedMark.2] []

/-- The text of a style node as an element. -/
def renderStyle (v : Value) : Act Value := do
  let css ← guardSheet c (← Attribute.get v "css")
  let number ← written Memory.display (← Attribute.get v "node_id")
  let css ← written Memory.display css
  return .str (Page.Style.element number css)

/-- What a generator gives, or the error that it is at its end. -/
def given (y : Yielded) : Act Value :=
  match y with
  | .item v => return v
  | .finished .none => raiseWith "StopIteration" []
  | .finished v => raiseWith "StopIteration" [v]

def ofGenerator (r : Ref) (name : String) (args : List Value) (named : Arity.Named) : Act Value := do
  let what := "generator." ++ name
  match name with
  | "send" =>
    let v ← Arity.one what args named
    let y ← c.resume r (.send v)
    given y
  | "throw" =>
    Arity.noNames what named
    Arity.between name 1 3 args []
    let v := args.headD .none
    match ← errorOf? c v with
    | some e =>
      let y ← c.resume r (.throw e)
      given y
    | none =>
      let type ← look (·.typeName v)
      typeError ("exceptions must be classes or instances deriving from BaseException, not " ++ type)
  | _ =>
    Arity.none what args named
    let stop ← make (.error "GeneratorExit" [] [])
    recover (c.resume r (.throw stop)) fun
      | .ok (.item _) => raise "RuntimeError" "generator ignored GeneratorExit"
      | .ok (.finished _) => return .none
      | .error (.raised e) => do
        let kind ← look (·.typeName e)
        if kind = "GeneratorExit" || kind = "StopIteration" then return .none else fail (.raised e)
      | .error t => fail t

def bitLength (n : Nat) : Nat := if n = 0 then 0 else n.log2 + 1

/-- How many bits of a natural are set. -/
def bitCount (n : Nat) : Nat := ((Nat.toDigits 2 n).filter (· = '1')).length

def callOn (v : Value) (name : String) (args : List Value) (named : Arity.Named) : Act Value := do
  let type ← look (·.typeName v)
  match v with
  | .str s => ofText c s name args named
  | .bytes bs => ofBytes bs name args named
  | .tuple items => ofTuple items name args named
  | .range a b step =>
    let shown ← look (·.shown (args.headD .none))
    let items := Iterate.rangeItems a step (rangeLength a b step)
    if name = "index" then
      let w ← Arity.one "range.index" args named
      indexOf items [w] (valueError (shown ++ " is not in range"))
    else ofTuple items name args named
  | .int _ | .bool _ =>
    let n := (Operate.index? v).getD 0
    Arity.none (type ++ "." ++ name) args named
    match name with
    | "bit_length" => return .int (bitLength n.natAbs)
    | "bit_count" => return .int (bitCount n.natAbs)
    | _ => return .int n
  | .num x =>
    Arity.none (type ++ "." ++ name) args named
    if name = "is_integer" then return .bool x.integral?.isSome else return v
  | .ref r =>
    match ← look (·.get? r) with
    | some (.list items) => ofList c r items name args named
    | some (.dict entries) => ofDict c r entries name args named
    | some (.set frozen items) => ofSet c r frozen items name args named
    | some (.generator ..) => ofGenerator c r name args named
    | some (.style _) =>
      if args.isEmpty && named.isEmpty then renderStyle c v
      else typeError ("StyleNode.render() takes 1 positional argument but " ++
        toString (args.length + 1) ++ " were given")
    | some (.error kind arguments fields) =>
      let w ← Arity.one ("BaseException." ++ name) args named
      if name = "with_traceback" then return v
      else
        put r (.error kind arguments (Fields.set "notes" w fields))
        return .none
    | _ => Attribute.missing v name
  | _ => Attribute.missing v name

/-- Calls a method of a type, whose first argument is a value of the type. -/
def callOf (type name : String) (args : List Value) (named : Arity.Named) : Act Value := do
  if type = "dict" && name = "fromkeys" then ofDict c 0 [] name args named
  else match args with
    | [] => typeError ("unbound method " ++ type ++ "." ++ name ++ "() needs an argument")
    | v :: rest =>
      let actual ← look (·.typeName v)
      if isKindOf actual type then callOn c v name rest named
      else typeError ("descriptor '" ++ name ++ "' for '" ++ type ++
        "' objects doesn't apply to a '" ++ actual ++ "' object")

def call (v : Value) (name : String) (args : List Value) (named : Arity.Named) : Act Value :=
  match v with
  | .type type => callOf c type name args named
  | v => callOn c v name args named

end Method
end Userscript.Machine
