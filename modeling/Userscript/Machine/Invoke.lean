import Userscript.Machine.Construct

/-!
# Userscript.Machine.Invoke

How arguments meet the parameters of a function, and what the capabilities of a page do with theirs.
-/

namespace Userscript.Machine

namespace Invoke

open Act

/-- Names in quotes, as a list in a sentence. -/
def nameList : List String → String
  | [] => ""
  | [a] => "'" ++ a ++ "'"
  | [a, b] => "'" ++ a ++ "' and '" ++ b ++ "'"
  | names =>
    String.intercalate ", " (names.dropLast.map fun a => "'" ++ a ++ "'") ++ ", and '" ++
      names.getLastD "" ++ "'"

/-- An ending for more than one. -/
def plural (n : Nat) : String := if n = 1 then "" else "s"

/-- What is wrong with too many arguments by position. -/
def tooMany (path : String) (p : Parameters) (defaults given named : Nat) : Refusal :=
  let most := p.positional.length
  let takes := if defaults = 0 then toString most else "from " ++ toString (most - defaults) ++ " to " ++ toString most
  let ending := if defaults = 0 then plural most else "s"
  let also := if named = 0 then ""
    else " positional argument" ++ plural given ++ " (and " ++ toString named ++ " keyword-only argument" ++
      plural named ++ ")"
  .type (path ++ "() takes " ++ takes ++ " positional argument" ++ ending ++ " but " ++ toString given ++ also ++
    (if given = 1 && named = 0 then " was" else " were") ++ " given")

def lacking (path kind : String) (names : List String) : Refusal :=
  .type (path ++ "() missing " ++ toString names.length ++ " required " ++ kind ++ " argument" ++
    plural names.length ++ ": " ++ nameList names)

/-- Puts named arguments to the parameters that have their names; what is left over goes into `others`. -/
def byName (path : String) (p : Parameters) (given : Arity.Named) (named : Arity.Named) :
    Arity.Named → Except Refusal (Arity.Named × Arity.Named)
  | [] => .ok (given, named)
  | (name, v) :: rest =>
    let open' := p.positional.drop p.positionalOnly ++ p.named
    if open'.contains name then
      if (Fields.get? name given).isSome then
        .error (.type (path ++ "() got multiple values for argument '" ++ name ++ "'"))
      else byName path p (given ++ [(name, v)]) named rest
    else if p.others.isSome then byName path p given (named ++ [(name, v)]) rest
    else
      let closed := (((name, v) :: rest).map (·.1)).filter (p.positional.take p.positionalOnly).contains
      if closed.isEmpty then
        .error (.type (path ++ "() got an unexpected keyword argument '" ++ name ++ "'"))
      else
        .error (.type (path ++ "() got some positional-only arguments passed as keyword arguments: '" ++
          String.intercalate ", " closed ++ "'"))

/-- The values of all parameters but those that collect: as given, else by default. -/
def settle (path : String) (p : Parameters) (defaults : List Value) (namedDefaults given : Arity.Named) :
    Except Refusal Arity.Named :=
  let required := p.positional.take (p.positional.length - defaults.length)
  let missing := required.filter fun x => (Fields.get? x given).isNone
  if !missing.isEmpty then .error (lacking path "positional" missing)
  else
    let byDefault := ((p.positional.drop (p.positional.length - defaults.length)).zip defaults) ++ namedDefaults
    let value (x : String) : Option (String × Value) :=
      ((Fields.get? x given) <|> (Fields.get? x byDefault)).map fun v => (x, v)
    let missing := p.named.filter fun x => (value x).isNone
    if !missing.isEmpty then .error (lacking path "keyword-only" missing)
    else .ok ((p.positional ++ p.named).filterMap value)

/-- What parameters collect: further arguments by position, and named ones. -/
structure Collected where
  rest : List Value
  others : Arity.Named

/-- The values of the parameters of a function. -/
def bind (path : String) (p : Parameters) (defaults : List Value) (namedDefaults : Arity.Named)
    (args : List Value) (named : Arity.Named) : Except Refusal (Arity.Named × Collected) :=
  let given := p.positional.zip args
  match byName path p given [] named with
  | .error e => .error e
  | .ok (given, others) =>
    if p.positional.length < args.length && p.rest.isNone then
      .error (tooMany path p defaults.length args.length
        (p.named.filter fun x => (Fields.get? x given).isSome).length)
    else match settle path p defaults namedDefaults given with
      | .error e => .error e
      | .ok values => .ok (values, ⟨args.drop p.positional.length, others⟩)

/-! ## Capabilities -/

/-- The parameters of a capability, and the values of those that can be left out. -/
def parametersOf : Capability → Parameters × List Value
  | .addStyle => ({ positional := ["css"] }, [])
  | .getValue => ({ positional := ["key", "default"] }, [.none])
  | .setValue => ({ positional := ["key", "value"] }, [])
  | .send => ({ positional := ["details"] }, [])

def pathOf (c : Capability) : String := "build_capabilities.<locals>." ++ c.name

mutual

/-- Stored data as a value. -/
def ofJson : Json → Act Value
  | .null => return .none
  | .bool b => return .bool b
  | .int n => return .int n
  | .num x => return .num x
  | .str s => return .str s
  | .arr items => do
    let vs ← ofItems items
    make (.list vs)
  | .obj fields => do
    let entries ← ofFields fields
    make (.dict entries)

def ofItems : List Json → Act (List Value)
  | [] => return []
  | j :: rest => do
    let v ← ofJson j
    let vs ← ofItems rest
    return v :: vs

/-- Stored fields as entries. -/
def ofFields : List (String × Json) → Act (List (Value × Value))
  | [] => return []
  | (name, j) :: rest => do
    let v ← ofJson j
    let es ← ofFields rest
    return (.str name, v) :: es

end

/-- The value of an identifier that may be missing. -/
def identifier : Option Int → Value
  | some n => .int n
  | none => .none

/-- Adds a style node to the page. -/
def addStyle (css : String) : Act Value := fun m =>
  .addStyle css fun placed =>
    let fields : Fields Value := [("css", .str css), ("owner_script_id", identifier placed.owner),
      ("node_id", .int placed.number)]
    .done (.ok (.ref m.next),
      { m.push (.style fields) with styles := m.styles ++ [(placed.number, m.next)] })

/-- The stored value of a key, or a default. -/
def getValue (key default : Value) : Act Value := fun m =>
  .getValue (m.datum key) fun
    | .ok none => .done (.ok default, m)
    | .ok (some j) => ofJson j m
    | .error e => Act.raise e.kind e.message m

def setValue (key value : Value) : Act Value := fun m =>
  .setValue (m.datum key) (m.datum value) fun
    | .ok _ => .done (.ok .none, m)
    | .error e => Act.raise e.kind e.message m

def send (details : Value) : Act Value := do
  let refuse : Act Value := typeError "GM_xmlhttpRequest expects a dict of request details"
  match details with
  | .ref r =>
    match ← look (·.get? r) with
    | some (.dict entries) => fun m => .send entries fun _ => .done (.ok .none, m)
    | _ => refuse
  | _ => refuse

def capability (c : Capability) (args : List Value) (named : Arity.Named) : Act Value := do
  let (p, defaults) := parametersOf c
  let (values, _) ← lift (bind (pathOf c) p defaults [] args named)
  let value (name : String) : Value := (Fields.get? name values).getD .none
  match c with
  | .addStyle =>
    let css ← written Memory.display (value "css")
    addStyle css
  | .getValue => getValue (value "key") (value "default")
  | .setValue => setValue (value "key") (value "value")
  | .send => send (value "details")

end Invoke
end Userscript.Machine
