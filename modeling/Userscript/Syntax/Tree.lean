import Userscript.Number.Binary64

/-!
# Userscript.Syntax.Tree

Syntax trees of scripts. A node has a kind, the line on which it starts if it stands on one, and its
fields in the order of the grammar. A field is a node, a list, a word, a literal or blank.

* `Kind` lists the kinds of nodes, and `Kind.ofLabel?` reads the names by which trees are exchanged.
* `Tree.nodes` are the nodes of a tree, each before those in its fields.
-/

namespace Userscript.Syntax

inductive Kind where
  | module | interactive | expression
  | functionDef | asyncFunctionDef | classDef | returnStmt | deleteStmt | assign | augAssign
  | annAssign | forStmt | asyncFor | whileStmt | ifStmt | withStmt | asyncWith | matchStmt
  | raiseStmt | tryStmt | tryStar | assertStmt | importStmt | importFrom | globalStmt
  | nonlocalStmt | exprStmt | passStmt | breakStmt | continueStmt
  | boolOp | namedExpr | binOp | unaryOp | lambda | ifExp | dict | set | listComp | setComp
  | dictComp | generatorExp | await | yield | yieldFrom | compare | call | formattedValue
  | joinedStr | constant | attr | subscript | starred | name | list | tuple | slice
  | comprehension | exceptHandler | arguments | arg | keyword | alias | withItem | matchCase
  | matchValue | matchSingleton | matchSequence | matchMapping | matchClass | matchStar | matchAs
  | matchOr
  /-- Any other kind. -/
  | other
deriving DecidableEq, Repr

/-- The names by which kinds are exchanged. -/
def Kind.labels : List (String × Kind) := [
  ("Module", .module), ("Interactive", .interactive), ("Expression", .expression),
  ("FunctionDef", .functionDef), ("AsyncFunctionDef", .asyncFunctionDef),
  ("ClassDef", .classDef), ("Return", .returnStmt), ("Delete", .deleteStmt),
  ("Assign", .assign), ("AugAssign", .augAssign), ("AnnAssign", .annAssign),
  ("For", .forStmt), ("AsyncFor", .asyncFor), ("While", .whileStmt), ("If", .ifStmt),
  ("With", .withStmt), ("AsyncWith", .asyncWith), ("Match", .matchStmt), ("Raise", .raiseStmt),
  ("Try", .tryStmt), ("TryStar", .tryStar), ("Assert", .assertStmt), ("Import", .importStmt),
  ("ImportFrom", .importFrom), ("Global", .globalStmt), ("Nonlocal", .nonlocalStmt),
  ("Expr", .exprStmt), ("Pass", .passStmt), ("Break", .breakStmt), ("Continue", .continueStmt),
  ("BoolOp", .boolOp), ("NamedExpr", .namedExpr), ("BinOp", .binOp), ("UnaryOp", .unaryOp),
  ("Lambda", .lambda), ("IfExp", .ifExp), ("Dict", .dict), ("Set", .set),
  ("ListComp", .listComp), ("SetComp", .setComp), ("DictComp", .dictComp),
  ("GeneratorExp", .generatorExp), ("Await", .await), ("Yield", .yield),
  ("YieldFrom", .yieldFrom), ("Compare", .compare), ("Call", .call),
  ("FormattedValue", .formattedValue), ("JoinedStr", .joinedStr), ("Constant", .constant),
  ("Attribute", .attr), ("Subscript", .subscript), ("Starred", .starred), ("Name", .name),
  ("List", .list), ("Tuple", .tuple), ("Slice", .slice), ("comprehension", .comprehension),
  ("ExceptHandler", .exceptHandler), ("arguments", .arguments), ("arg", .arg),
  ("keyword", .keyword), ("alias", .alias), ("withitem", .withItem), ("match_case", .matchCase),
  ("MatchValue", .matchValue), ("MatchSingleton", .matchSingleton),
  ("MatchSequence", .matchSequence), ("MatchMapping", .matchMapping),
  ("MatchClass", .matchClass), ("MatchStar", .matchStar), ("MatchAs", .matchAs),
  ("MatchOr", .matchOr)]

def Kind.ofLabel? (label : String) : Option Kind :=
  (labels.find? (·.1 = label)).map (·.2)

inductive Literal where
  | none
  | ellipsis
  | bool (b : Bool)
  | int (n : Int)
  | num (x : Binary64)
  /-- A number times the imaginary unit. -/
  | imaginary (x : Binary64)
  | text (s : String)
  | bytes (bs : List UInt8)
deriving DecidableEq, Inhabited

/-- A syntax tree, or a field of one. -/
inductive Tree where
  | blank
  | word (s : String)
  | literal (value : Literal)
  | list (items : List Tree)
  | node (kind : Kind) (line : Option Int) (fields : List Tree)
deriving Inhabited

namespace Tree

/-- A field of a node; blank if there is none. -/
def field (i : Nat) : Tree → Tree
  | .node _ _ fields => fields.getD i .blank
  | _ => .blank

def items : Tree → List Tree
  | .list items => items
  | _ => []

def text : Tree → String
  | .word s => s
  | _ => ""

def isBlank : Tree → Bool
  | .blank => true
  | _ => false

def kind? : Tree → Option Kind
  | .node kind _ _ => some kind
  | _ => none

def line? : Tree → Option Int
  | .node _ line _ => line
  | _ => none

mutual

/-- The nodes of a tree, each before those in its fields. -/
def nodes : Tree → List Tree
  | .node kind line fields => .node kind line fields :: nodesOf fields
  | .list items => nodesOf items
  | _ => []

/-- The nodes of several trees in order. -/
def nodesOf : List Tree → List Tree
  | [] => []
  | t :: rest => nodes t ++ nodesOf rest

end

end Tree
end Userscript.Syntax
