import Userscript.Log
import Userscript.Machine.Program

/-!
# Userscript.Machine.Rehearsal

Scripts run without a page: stand-ins take the places of the capabilities, note how they are called and
give fixed answers.
-/

namespace Userscript.Machine

/-- What is noted of a run. -/
structure Rehearsal where
  /-- The calls of stand-ins, by their numbers. -/
  calls : List (Nat × List Value) := []
  /-- The texts that the script printed. -/
  printed : List String := []

/-- Runs a dialogue; stand-ins answer as `answers` says, and nothing is stored or sent. -/
def Dialogue.rehearse {α : Type} (answers : Nat → Json) : Dialogue α → Rehearsal → α × Rehearsal
  | .done a, r => (a, r)
  | .addStyle _ k, r => (k ⟨1, none⟩).rehearse answers r
  | .getValue _ k, r => (k (.ok none)).rehearse answers r
  | .setValue _ _ k, r => (k (.ok ())).rehearse answers r
  | .send _ k, r => (k ()).rehearse answers r
  | .print text k, r => (k ()).rehearse answers { r with printed := r.printed ++ [text] }
  | .foreign n args k, r =>
    (k (.ok (answers n))).rehearse answers { r with calls := r.calls ++ [(n, args)] }

/-- What came of a run without a page. -/
structure Rehearsed where
  /-- What the script gave back, or its error. -/
  result : Except String Datum
  /-- How each capability was called. -/
  calls : List (Capability × List Datum)
  log : Log

/-- What the error of a run is, in words. -/
def Trouble.described (m : Memory) : Trouble → String
  | .raised e => m.described e
  | .endless => "endless"

/-- The fault of who asks an error for words that it does not have. -/
def wordless : Fault := .badValue Number.NumeralFault.unwritable.message

def Trouble.told (m : Memory) : Trouble → Except Fault String
  | .raised e => if m.isWritable e then .ok (m.described e) else .error wordless
  | .endless => .ok "endless"

/-- The text of the error of a run, without its kind. -/
def Trouble.display (m : Memory) : Trouble → String
  | .raised e => m.display e
  | .endless => "endless"

/-- Runs a script with stand-ins for its capabilities. -/
def Program.rehearse (p : Program) (label : String) (answers : Capability → Json) : Rehearsed :=
  let capability (n : Nat) : Capability := Capability.all.getD n .send
  let standIns := (List.range Capability.all.length).map Value.foreign
  let ((r, m), noted) :=
    (p.start standIns {}).rehearse (fun n => answers (capability n)) ({} : Rehearsal)
  { result := match r with
      | .ok v => .ok (m.datum v)
      | .error t => .error (t.described m)
    calls := noted.calls.map fun (n, args) => (capability n, args.map m.datum)
    log := noted.printed.map fun text => .note ("[" ++ label ++ "] " ++ text) }

end Userscript.Machine
