import Userscript.Fault
import Userscript.Syntax.Tree
import Userscript.Text.Quoted

/-!
# Userscript.Syntax.Check

What scripts may not use: imports, global declarations and class definitions; names that begin with two
low lines or that reach past the capabilities; attributes that begin with a low line or that lead to
frames, code and formatting; and yielding outside functions.

`check` goes through a tree, each node before its fields, and gives the first fault. A function or a
lambda counts as around all that it is written with, its decorators and defaults too.
-/

namespace Userscript.Syntax

def blockedNames : List String := [
  "eval", "exec", "compile", "open", "getattr", "setattr", "delattr", "hasattr", "globals",
  "locals", "vars", "dir", "breakpoint", "input", "help", "exit", "quit", "memoryview", "object",
  "type"]

def blockedAttributes : List String := [
  "format", "format_map", "mro", "gi_frame", "gi_code", "gi_yieldfrom", "cr_frame", "cr_code",
  "cr_await", "ag_frame", "ag_code", "ag_await", "f_back", "f_builtins", "f_code", "f_globals",
  "f_locals", "tb_frame", "tb_next"]

/-- Whether a name begins with two low lines. -/
def isReserved (name : String) : Bool :=
  match name.toList with
  | '_' :: '_' :: _ => true
  | _ => false

/-- Whether an attribute begins with a low line. -/
def isPrivate (attr : String) : Bool :=
  match attr.toList with
  | '_' :: _ => true
  | _ => false

def nameFault? (name : String) : Option String :=
  if isReserved name then some ("name " ++ Text.quote name ++ " is not allowed")
  else if blockedNames.contains name then some (name ++ " is not available to scripts")
  else none

def attributeFault? (attr : String) : Option String :=
  if isPrivate attr then
    some ("private attribute " ++ Text.quote attr ++ " is not allowed")
  else if blockedAttributes.contains attr then
    some ("attribute " ++ Text.quote attr ++ " is not allowed")
  else none

/-- What is wrong with a node apart from the nodes in its fields, where `depth` functions are around
it. -/
def nodeFault? (depth : Nat) (kind : Kind) (fields : List Tree) : Option String :=
  let word (i : Nat) := (fields.getD i .blank).text
  match kind with
  | .importStmt | .importFrom => some "import is not allowed"
  | .globalStmt => some "global is not allowed"
  | .classDef => some "class definitions are not allowed"
  | .name | .functionDef | .asyncFunctionDef | .arg => nameFault? (word 0)
  | .attr => attributeFault? (word 1)
  | .matchClass =>
    (fields.getD 2 .blank).items.findSome? fun attr => attributeFault? attr.text
  | .yield | .yieldFrom =>
    if depth = 0 then some "yield is not allowed at script top level" else none
  | _ => none

/-- Whether a node of this kind opens a function. -/
def Kind.opensFunction : Kind → Bool
  | .functionDef | .asyncFunctionDef | .lambda => true
  | _ => false

mutual

/-- Goes through a tree inside `depth` functions. -/
def checkFrom (depth : Nat) : Tree → Except Fault Unit
  | .node kind line fields =>
    match nodeFault? depth kind fields with
    | some reason => .error (.unsafeScript reason line)
    | none => checkAll (if kind.opensFunction then depth + 1 else depth) fields
  | .list items => checkAll depth items
  | _ => .ok ()

/-- Goes through trees in order. -/
def checkAll (depth : Nat) : List Tree → Except Fault Unit
  | [] => .ok ()
  | t :: rest =>
    match checkFrom depth t with
    | .error fault => .error fault
    | .ok _ => checkAll depth rest

end

/-- Refuses a tree that uses what scripts may not use. -/
def check (t : Tree) : Except Fault Unit := checkFrom 0 t

end Userscript.Syntax
