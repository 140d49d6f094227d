import Userscript.Fault
import Userscript.Machine.Value

/-!
# Userscript.Machine.Dialogue

What a script asks of the page while it runs.

A run is a tree: at each node the script asks for something, and goes on with the answer. The tree holds all
that a script can do to its page, so that what holds of every question holds of every script.

* `Dialogue.bind` goes on after the end of a dialogue;
* `Act` are the steps of the machine: dialogues that read and change memory, and that may end in trouble.
-/

namespace Userscript.Machine

/-- A style node that was added: its number, and whose it is. -/
structure Placed where
  number : Nat
  owner : Option Int
deriving DecidableEq, Repr

/-- A dialogue that ends in an answer. -/
inductive Dialogue (α : Type) where
  | done (answer : α)
  /-- Adds a style node. -/
  | addStyle (css : String) (next : Placed → Dialogue α)
  /-- Looks up the stored value of a key. -/
  | getValue (key : Datum) (next : Except Fault (Option Json) → Dialogue α)
  /-- Stores the value of a key. -/
  | setValue (key value : Datum) (next : Except Fault Unit → Dialogue α)
  /-- Hands in a request, by its details. -/
  | send (details : List (Value × Value)) (next : Unit → Dialogue α)
  | print (text : String) (next : Unit → Dialogue α)
  /-- Calls a function that is provided from outside, which may fail with an error of a kind with a
  text. -/
  | foreign (n : Nat) (arguments : List Value)
      (next : Except (String × String) Json → Dialogue α)

/-- Goes on after the end of a dialogue. -/
def Dialogue.bind {α β : Type} : Dialogue α → (α → Dialogue β) → Dialogue β
  | .done a, f => f a
  | .addStyle css k, f => .addStyle css fun n => (k n).bind f
  | .getValue key k, f => .getValue key fun v => (k v).bind f
  | .setValue key v k, f => .setValue key v fun r => (k r).bind f
  | .send details k, f => .send details fun u => (k u).bind f
  | .print text k, f => .print text fun u => (k u).bind f
  | .foreign n vs k, f => .foreign n vs fun v => (k v).bind f

/-- Why a step does not give a result. -/
inductive Trouble where
  | raised (error : Value)
  /-- The script did not come to an end. -/
  | endless

/-- A step of the machine. -/
def Act (α : Type) := Memory → Dialogue (Except Trouble α × Memory)

namespace Act

/-- Gives a result. -/
protected def pure {α : Type} (a : α) : Act α := fun m => .done (.ok a, m)

def fail {α : Type} (t : Trouble) : Act α := fun m => .done (.error t, m)

/-- Goes on with a result. -/
protected def bind {α β : Type} (x : Act α) (f : α → Act β) : Act β := fun m =>
  (x m).bind fun r =>
    match r with
    | (.ok a, m) => f a m
    | (.error t, m) => .done (.error t, m)

/-- Goes on with a result or with trouble. -/
def recover {α β : Type} (x : Act α) (f : Except Trouble α → Act β) : Act β := fun m =>
  (x m).bind fun r => f r.1 r.2

instance : Monad Act where
  pure := Act.pure
  bind := Act.bind

instance {α : Type} : Inhabited (Act α) := ⟨fail .endless⟩

def look {α : Type} (f : Memory → α) : Act α := fun m => .done (.ok (f m), m)

def change (f : Memory → Memory) : Act Unit := fun m => .done (.ok (), f m)

/-- Puts a new object into memory. -/
def make (o : Object) : Act Value := fun m => .done (.ok (.ref m.next), m.push o)

def put (r : Ref) (o : Object) : Act Unit := change fun m => m.set r o

def raiseWith {α : Type} (kind : String) (arguments : List Value) : Act α := do
  let e ← make (.error kind arguments [])
  fail (.raised e)

def raise {α : Type} (kind text : String) : Act α := raiseWith kind [.str text]

def typeError {α : Type} (text : String) : Act α := raise "TypeError" text

def valueError {α : Type} (text : String) : Act α := raise "ValueError" text

/-- The result of what cannot ask anything, which may be an error of a kind with a text. -/
def lift {α : Type} : Except (String × String) α → Act α
  | .ok a => Act.pure a
  | .error (kind, text) => raise kind text

/-- Applies a function to each value in order. -/
def each {α β : Type} (f : α → Act β) : List α → Act (List β)
  | [] => return []
  | a :: rest => do
    let b ← f a
    let bs ← each f rest
    return b :: bs

end Act
end Userscript.Machine
