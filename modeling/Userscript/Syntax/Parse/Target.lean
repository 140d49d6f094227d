import Userscript.Syntax.Parse

/-!
# Userscript.Syntax.Parse.Target

What can be assigned to, or deleted: names, attributes and items, and lists and tuples of them. What is
assigned to may also collect the rest of a list behind a star.
-/

namespace Userscript.Syntax.Parse

mutual

/-- The line of the first part that cannot be a target. -/
def badTarget? (deleted : Bool) : Tree → Option Nat
  | .node .name _ _ => none
  | .node .attr _ _ => none
  | .node .subscript _ _ => none
  | .node .starred line (t :: _) => if deleted then some (line.getD 0).toNat else badTarget? deleted t
  | .node .list _ (.list items :: _) => badTargets? deleted items
  | .node .tuple _ (.list items :: _) => badTargets? deleted items
  | .node _ line _ => some (line.getD 0).toNat
  | _ => none

/-- The line of the first part of several that cannot be a target. -/
def badTargets? (deleted : Bool) : List Tree → Option Nat
  | [] => none
  | t :: rest => badTarget? deleted t <|> badTargets? deleted rest

end

/-- Passes only what can be assigned to. -/
def asTarget (t : Tree) : Parse Tree :=
  match badTarget? false t with
  | some line => blame line
  | none => return t

/-- Passes only what can be deleted. -/
def asDeleted (t : Tree) : Parse Tree :=
  match badTarget? true t with
  | some line => blame line
  | none => return t

/-- Whether something is a single target: a name, an attribute or an item. -/
def isSingle (t : Tree) : Bool :=
  match t.kind? with
  | some .name | some .attr | some .subscript => true
  | _ => false

end Userscript.Syntax.Parse
