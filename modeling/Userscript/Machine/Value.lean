import Userscript.Json.Value
import Userscript.Machine.Code

/-!
# Userscript.Machine.Value

The values of scripts, and the memory that holds those that can change.

Numbers, texts, tuples and the like are values by themselves; lists, dictionaries, functions and so on are
objects in memory, and a value refers to them by their place. A function that runs has a frame; the frame
of a generator is kept in memory while it waits.
-/

namespace Userscript.Machine

abbrev Ref := Nat

inductive Builtin where
  | abs | all | any | callable | chr | divmod | hash | isinstance | issubclass | iter | len | max | min
  | next | ord | pow | print | repr | round | sorted | sum
deriving DecidableEq, Repr

def Builtin.names : List (String × Builtin) := [
  ("abs", .abs), ("all", .all), ("any", .any), ("callable", .callable), ("chr", .chr),
  ("divmod", .divmod), ("hash", .hash), ("isinstance", .isinstance), ("issubclass", .issubclass),
  ("iter", .iter), ("len", .len), ("max", .max), ("min", .min), ("next", .next), ("ord", .ord),
  ("pow", .pow), ("print", .print), ("repr", .repr), ("round", .round), ("sorted", .sorted),
  ("sum", .sum)]

def Builtin.name (b : Builtin) : String := ((names.find? (·.2 = b)).map (·.1)).getD ""

/-- What a page offers to a script. -/
inductive Capability where
  | addStyle | getValue | setValue | send
deriving DecidableEq, Repr

namespace Capability

/-- The capabilities in the order in which a script gets them. -/
def all : List Capability := [.addStyle, .getValue, .setValue, .send]

/-- The name under which a script uses a capability. -/
def name : Capability → String
  | .addStyle => "GM_addStyle"
  | .getValue => "GM_getValue"
  | .setValue => "GM_setValue"
  | .send => "GM_xmlhttpRequest"

def names : List String := all.map name

end Capability

inductive Value where
  | none
  | ellipsis
  | notImplemented
  | bool (b : Bool)
  | int (n : Int)
  | num (x : Binary64)
  | imaginary (x : Binary64)
  | str (s : String)
  | bytes (bs : List UInt8)
  | tuple (items : List Value)
  | slice (start stop step : Value)
  | range (start stop step : Int)
  /-- A type, by its name. -/
  | type (name : String)
  | builtin (b : Builtin)
  /-- A method of a value, by its name. -/
  | method (receiver : Value) (name : String)
  | capability (c : Capability)
  /-- A function that whoever runs the script provides, by its number. -/
  | foreign (n : Nat)
  /-- An object in memory. -/
  | ref (r : Ref)
deriving Inhabited

/-- What happens to the flow of a function. -/
inductive Signal where
  | raised (error : Value)
  | returned (value : Value)
  | left
  | continued

/-- A block that is entered. `after` is the code behind it, and `height` the size of the stack at its
start. -/
inductive Block where
  /-- A loop, with the code of one turn. -/
  | loop (turn after : Code) (height : Nat)
  /-- A loop over the iterator on the stack. -/
  | each (turn otherwise after : Code) (height : Nat)
  /-- Code whose errors are handled. -/
  | guarded (handlers otherwise after : Code) (height : Nat)
  /-- Code that is followed by more, whatever happens. -/
  | cleanup (last after : Code) (height : Nat)
  /-- The handling of an error. `previous` was handled before. -/
  | handling (previous : Option Value) (after : Code)
  /-- Code that is run while a signal waits. -/
  | pending (signal : Signal) (previous : Option Value)

structure Frame where
  code : Code
  stack : List Value := []
  blocks : List Block := []
  locals : List (String × Value) := []
  cells : List (String × Ref) := []
  signature : Signature
  /-- The error that was handled when the function gave its last item. -/
  handling : Option Value := none

/-- What a view of a dictionary shows. -/
inductive Part where
  | keys | values | items
deriving DecidableEq, Repr

inductive Iterator where
  /-- Over items that cannot change, with the name of its type. -/
  | fixed (type : String) (rest : List Value)
  /-- Over a list, from an index on. -/
  | list (list : Ref) (index : Nat)
  /-- Over a list backwards; the items below `index` are left. -/
  | back (list : Ref) (index : Nat)
  /-- Over a dictionary that had a size, from an index on. -/
  | entries (part : Part) (dict : Ref) (index size : Nat)
  /-- Over a set that had a size, from an index on. -/
  | members (set : Ref) (index size : Nat)
  | range (next stop step : Int)
  | enumerate (inner : Value) (count : Int)
  | zip (inner : List Value) (strict : Bool)
  | map (f : Value) (inner : List Value)
  | filter (f inner : Value)
  /-- Over what a function gives, up to a value. -/
  | calls (f last : Value)
  /-- At the end. -/
  | done (type : String)

inductive Progress where
  | fresh (frame : Frame)
  | waiting (frame : Frame)
  | running
  | finished

inductive Object where
  | list (items : List Value)
  | dict (entries : List (Value × Value))
  | set (frozen : Bool) (items : List Value)
  | function (signature : Signature) (body : Code) (defaults : List Value)
      (namedDefaults : List (String × Value)) (cells : List (String × Ref)) (fields : Fields Value)
  | generator (signature : Signature) (progress : Progress)
  | iterator (it : Iterator)
  | view (part : Part) (dict : Ref)
  | error (kind : String) (arguments : List Value) (fields : Fields Value)
  /-- A style node, as scripts see it. -/
  | style (fields : Fields Value)
  /-- A variable that functions share. -/
  | cell (value : Option Value)
  /-- A call that was never waited for. -/
  | waiting (signature : Signature)
deriving Inhabited

structure Memory where
  objects : Array Object := #[]
  /-- The error that is handled at the moment. -/
  handling : Option Value := none
  /-- The places of the style nodes, by their numbers. -/
  styles : List (Nat × Ref) := []
deriving Inhabited

namespace Memory

def get? (m : Memory) (r : Ref) : Option Object := m.objects[r]?

/-- The memory with another object at a place. -/
def set (m : Memory) (r : Ref) (o : Object) : Memory :=
  { m with objects := m.objects.setIfInBounds r o }

/-- The memory with one more object, at the place that is free next. -/
def push (m : Memory) (o : Object) : Memory := { m with objects := m.objects.push o }

def next (m : Memory) : Ref := m.objects.size

end Memory
end Userscript.Machine
