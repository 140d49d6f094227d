import Userscript.Syntax.Tree

/-!
# Userscript.Machine.Code

The code that scripts are lowered to: instructions for a machine with a stack of values, in which
blocks are nested as they are in the source. There are no jumps: a loop, a condition or a handler
holds the code that it governs.
-/

namespace Userscript.Machine

inductive BinaryOp where
  | add | sub | mul | matMul | div | floorDiv | mod | pow | shiftLeft | shiftRight
  | bitOr | bitXor | bitAnd
deriving DecidableEq, Repr, Inhabited

namespace BinaryOp

def signs : List (String × BinaryOp) := [
  ("+", .add), ("-", .sub), ("*", .mul), ("@", .matMul), ("/", .div), ("//", .floorDiv),
  ("%", .mod), ("**", .pow), ("<<", .shiftLeft), (">>", .shiftRight), ("|", .bitOr),
  ("^", .bitXor), ("&", .bitAnd)]

def ofSign (s : String) : BinaryOp := ((signs.find? (·.1 = s)).map (·.2)).getD .add

def sign (op : BinaryOp) : String := ((signs.find? (·.2 = op)).map (·.1)).getD ""

end BinaryOp

inductive UnaryOp where
  | negate | plus | invert | not
deriving DecidableEq, Repr, Inhabited

def UnaryOp.ofSign (s : String) : UnaryOp :=
  if s = "-" then .negate else if s = "+" then .plus else if s = "~" then .invert else .not

inductive Comparison where
  | eq | ne | lt | le | gt | ge | is | isNot | mem | notMem
deriving DecidableEq, Repr, Inhabited

namespace Comparison

def signs : List (String × Comparison) := [
  ("==", .eq), ("!=", .ne), ("<", .lt), ("<=", .le), (">", .gt), (">=", .ge), ("is", .is),
  ("is not", .isNot), ("in", .mem), ("not in", .notMem)]

def ofSign (s : String) : Comparison := ((signs.find? (·.1 = s)).map (·.2)).getD .eq

def sign (op : Comparison) : String := ((signs.find? (·.2 = op)).map (·.1)).getD ""

end Comparison

/-- Where a variable lives. -/
inductive Home where
  /-- In the frame of its function. -/
  | frame
  /-- In a cell of its function, which inner functions share. -/
  | cell
  /-- In a cell of an outer function. -/
  | outer
  /-- Outside of the script, among what all scripts can use. -/
  | builtin
deriving DecidableEq, Repr, Inhabited

/-- How a function runs when it is called. -/
inductive Manner where
  /-- To its end. -/
  | plain
  /-- Piece by piece, as its results are asked for. -/
  | generator
  /-- Not at all before something waits for it. -/
  | waiting
deriving DecidableEq, Repr, Inhabited

structure Parameters where
  /-- Parameters by position, of which the first `positionalOnly` cannot be named. -/
  positional : List String := []
  positionalOnly : Nat := 0
  /-- What collects further arguments. -/
  rest : Option String := none
  /-- Parameters by name alone. -/
  named : List String := []
  /-- What collects further named arguments. -/
  others : Option String := none
deriving DecidableEq, Repr, Inhabited

namespace Parameters

/-- The names of the parameters in the order in which the frame holds them. -/
def names (p : Parameters) : List String :=
  p.positional ++ p.named ++ p.rest.toList ++ p.others.toList

end Parameters

/-- What is known of a function before it runs. -/
structure Signature where
  name : String
  /-- The name with those of the functions around it. -/
  path : String
  parameters : Parameters := {}
  /-- Variables that inner functions share. -/
  cells : List String := []
  /-- Variables of outer functions that are used. -/
  outer : List String := []
  manner : Manner := .plain
deriving DecidableEq, Repr, Inhabited

inductive Instr where
  -- Values on the stack.
  | push (value : Syntax.Literal)
  | pop
  | copy
  /-- Copies the upper two. -/
  | copyTwo
  /-- Moves the top below the next one, or the next two. -/
  | under
  | underTwo
  -- Variables.
  | load (home : Home) (name : String)
  | store (home : Home) (name : String)
  | delete (home : Home) (name : String)
  -- Attributes and items.
  | getAttr (name : String)
  | setAttr (name : String)
  | deleteAttr (name : String)
  | getItem
  | setItem
  | deleteItem
  -- Operators.
  | unary (op : UnaryOp)
  | binary (op : BinaryOp)
  /-- The operator of an assignment that changes its target, which may be done in place. -/
  | change (op : BinaryOp)
  | compare (op : Comparison)
  /-- Compares, and goes on to compare the right operand with what `more` yields if that holds. -/
  | chain (op : Comparison) (more : List Instr)
  -- Choice.
  | branch (yes no : List Instr)
  /-- Keeps the top if it counts as false; else drops it and goes on with `more`. -/
  | andThen (more : List Instr)
  /-- Keeps the top if it counts as true; else drops it and goes on with `more`. -/
  | orElse (more : List Instr)
  -- Building values from the stack.
  | makeTuple (n : Nat)
  | makeList (n : Nat)
  | makeSet (n : Nat)
  | makeDict
  | makeSlice
  | makeText (n : Nat)
  /-- The text of a value in a text with fields; with `spec`, in the format that lies above it. -/
  | format (conversion : Option Char) (spec : Bool)
  /-- Puts the top into the list, set or dictionary below it. -/
  | append
  | add
  /-- Puts the upper keys and values into the dictionary below them. -/
  | addEntries (n : Nat)
  /-- Puts the items of the top into the list, set or dictionary below it. -/
  | extend
  | addAll
  | merge
  /-- Adds or merges named arguments, each of which may be given only once. -/
  | addNamed
  | mergeNamed
  | listToTuple
  /-- Puts the top into the list, set or dictionary at the bottom. -/
  | collect
  | collectItem
  | collectEntry
  -- Functions.
  | function (signature : Signature) (defaults : Nat) (namedDefaults : List String)
      (body : List Instr)
  | call (positional : Nat) (names : List String)
  /-- Calls with a list of arguments and a dictionary of named ones. -/
  | callWith
  | giveBack
  | yield
  | yieldFrom
  | await
  -- Loops.
  | iterate
  | each (turn otherwise : List Instr)
  | loop (turn : List Instr)
  /-- Ends the loop that ran out of turns. -/
  | quit (otherwise : List Instr)
  | leave
  | again
  -- Unpacking.
  | unpack (n : Nat)
  | unpackAround (before after : Nat)
  -- Errors.
  | raise (parts : Nat)
  | failAssertion (message : Bool)
  | guarded (body handlers otherwise : List Instr)
  | cleanup (body last : List Instr)
  /-- Whether the error below is of the kind on top. -/
  | isError
  /-- Goes on with the error that is handled. -/
  | reraise
  /-- What no value of a script can do. -/
  | enterContext
  | unsupported (what : String)
deriving Inhabited

abbrev Code := List Instr

end Userscript.Machine
