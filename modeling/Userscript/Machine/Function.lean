import Userscript.Machine.Invoke
import Userscript.Machine.Unwind

/-!
# Userscript.Machine.Function

Variables, and the frames of functions that are called.

A variable that inner functions share lives in a cell of its own; a function takes along the cells of the
variables that it uses from outside.
-/

namespace Userscript.Machine

namespace Function

open Act

/-! ## Variables -/

/-- What all scripts can use, apart from capabilities. -/
def shared? (name : String) : Option Value :=
  if name = "NotImplemented" then some .notImplemented
  else if name = "Ellipsis" then some .ellipsis
  else if namedTypes.contains name || namedErrors.contains name then some (.type name)
  else (Builtin.names.find? (·.1 = name)).map fun b => .builtin b.2

/-- Raises that a variable has no value yet. -/
def unbound {α : Type} (name : String) : Act α :=
  raise "UnboundLocalError"
    ("cannot access local variable '" ++ name ++ "' where it is not associated with a value")

/-- Raises that a variable of an outer function has no value yet. -/
def unboundOutside {α : Type} (name : String) : Act α :=
  raise "NameError" ("cannot access free variable '" ++ name ++
    "' where it is not associated with a value in enclosing scope")

/-- Raises that there is no such name. -/
def unknown {α : Type} (name : String) : Act α := raise "NameError" ("name '" ++ name ++ "' is not defined")

/-- What the cell of a variable holds. -/
def cellValue? (m : Memory) (f : Frame) (name : String) : Option Value :=
  match (Fields.get? name f.cells).bind m.get? with
  | some (.cell v?) => v?
  | _ => none

def load (f : Frame) (home : Home) (name : String) : Act Value := do
  match home with
  | .frame =>
    match Fields.get? name f.locals with
    | some v => return v
    | none => unbound name
  | .cell =>
    match ← look (cellValue? · f name) with
    | some v => return v
    | none => unbound name
  | .outer =>
    match ← look (cellValue? · f name) with
    | some v => return v
    | none => unboundOutside name
  | .builtin =>
    match shared? name with
    | some v => return v
    | none => unknown name

/-- Gives a variable a value, or none. -/
def assign (f : Frame) (home : Home) (name : String) (v? : Option Value) : Act Frame :=
  match home with
  | .frame | .builtin =>
    return { f with locals := match v? with
      | some v => Fields.set name v f.locals
      | none => Fields.erase name f.locals }
  | .cell | .outer =>
    match Fields.get? name f.cells with
    | some r => do
      put r (.cell v?)
      return f
    | none => return f

/-- Takes the value of a variable away. -/
def delete (f : Frame) (home : Home) (name : String) : Act Frame := do
  let _ ← load f home name
  assign f home name none

/-! ## Frames -/

/-- The frame of a function, with new cells for the variables that it shares. -/
def frame (s : Signature) (body : Code) (captured : List (String × Ref))
    (values : List (String × Value)) : Act Frame := do
  let own ← each (fun name => do
    let r ← look (·.next)
    let _ ← make (.cell (Fields.get? name values))
    return (name, r)) s.cells
  return {
    code := body
    locals := values.filter fun p => !s.cells.contains p.1
    cells := own ++ captured
    signature := s }

def arguments (s : Signature) (defaults : List Value) (namedDefaults : List (String × Value))
    (args : List Value) (named : Arity.Named) : Act (List (String × Value)) := do
  let p := s.parameters
  let (values, collected) ← lift (Invoke.bind s.path p defaults namedDefaults args named)
  let rest := match p.rest with
    | some name => [(name, Value.tuple collected.rest)]
    | none => []
  let others ← match p.others with
    | some name => do
      let dict ← make (.dict (collected.others.map fun e => (Value.str e.1, e.2)))
      pure [(name, dict)]
    | none => pure []
  return values ++ rest ++ others

/-- Makes a function from the defaults on the stack. -/
def define (f : Frame) (s : Signature) (defaults : Nat) (namedDefaults : List String)
    (body : Code) : Act Frame := do
  let named := namedDefaults.zip (f.upper namedDefaults.length)
  let f := f.drop namedDefaults.length
  let values := f.upper defaults
  let f := f.drop defaults
  let captured := s.outer.filterMap fun name => (Fields.get? name f.cells).map fun r => (name, r)
  let made ← make (.function s body values named captured [])
  return f.push made

end Function
end Userscript.Machine
