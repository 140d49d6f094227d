import Userscript.Machine.Exec
import Userscript.Machine.Lower
import Userscript.Syntax.Source

/-!
# Userscript.Machine.Program

Scripts made ready to run: checked, lowered, and closed over nothing but the capabilities of a page.

* `Program.ofSource` refuses a source that is too long, does not parse or uses what scripts may not use;
* `Program.start` runs a script with values for its capabilities.
-/

namespace Userscript.Machine

open Act

/-- A script that is ready to run. -/
structure Program where
  signature : Signature
  code : Code

namespace Program

/-- The name of the function that a script is the body of. -/
def entryName : String := "__usm_entry__"

def parameters : Parameters := { positional := Capability.names }

/-- The length of a source as given. -/
def lengthOf : Json → Except Fault Nat
  | .str s => .ok s.length
  | .arr items => .ok items.length
  | .obj fields => .ok fields.length
  | .null => .error (.unmeasured "NoneType")
  | .bool _ => .error (.unmeasured "bool")
  | .int _ => .error (.unmeasured "int")
  | .num _ => .error (.unmeasured "float")

/-- A script from its syntax tree. It is the body of a function like any other: if it gives results piece by
piece, nothing of it runs when it is called. -/
def ofTree (t : Syntax.Tree) : Except Fault Program :=
  match lowered entryName Capability.names t with
  | .error line => .error (Syntax.syntaxFault line)
  | .ok code =>
    let body := t.field 0
    let scope := Scope.inside [] entryName Capability.names (namesOf false body)
    let manner := if Lower.yields body then Manner.generator else .plain
    .ok ⟨{ name := entryName, path := entryName, parameters, cells := scope.cells, manner }, code⟩

/-- A script from its source, which may not be longer than `longest`. -/
def ofSource (longest : Int) (source : Json) : Except Fault Program := do
  if longest < (← lengthOf source) then
    throw (.unsafeScript ("script is longer than " ++ toString longest ++ " characters") none)
  match source with
  | .str s => ofTree (← Syntax.validated s)
  | _ => .error .notSource

/-- Runs a script with values for its capabilities. -/
def start (p : Program) (capabilities : List Value) : Act Value := do
  change fun m => { m with handling := none }
  let frame ← Function.frame p.signature p.code [] (Capability.names.zip capabilities)
  Exec.begin calls p.signature frame

/-- How the log calls a script. -/
def label (id : Option Int) (name : String) : String :=
  if name ≠ "" then name
  else "script " ++ match id with
    | some n => toString n
    | none => "None"

end Program
end Userscript.Machine
