import Userscript.Machine.Declared

/-!
# Userscript.Machine.Lower

Syntax trees lowered to code. What stands where it has no meaning, such as a `break` outside of a loop, is
blamed by its line.

`Lowerer` holds what lowers the parts of a tree, so that recursion can be tied in one place: `lowerer`
gives one for trees up to a depth.
-/

namespace Userscript.Machine

open Syntax

/-- Code, or the line to blame. -/
abbrev Lowered := Except Nat Code

/-- What lowers expressions and statements. -/
structure Lowerer where
  expression : Scope → Tree → Lowered
  statement : Scope → Tree → Lowered

namespace Lower

/-- The code that pushes nothing. -/
def pushNone : Instr := .push .none

/-- Lowers one after another. -/
def sequence (lower : Tree → Lowered) (ts : List Tree) : Lowered := do
  return (← ts.mapM lower).flatten

/-- Blames what must not be there. -/
def refuse (t : Tree) : Lowered := .error (lineOf t)

def isStarred (t : Tree) : Bool := t.kind? = some .starred

variable (l : Lowerer) (s : Scope)

/-- Something that may be missing, for which there is nothing then. -/
def optional (t : Tree) : Lowered := if t.isBlank then .ok [pushNone] else l.expression s t

/-! ## Displays -/

/-- Items gathered one by one into what lies below them. -/
def gather (one many : Instr) (t : Tree) : Lowered :=
  match t with
  | .node .starred _ (inner :: _) => do return (← l.expression s inner) ++ [many]
  | t => do return (← l.expression s t) ++ [one]

def display (make : Nat → Instr) (one many : Instr) (items : List Tree) : Lowered :=
  if items.any isStarred then do
    return make 0 :: (← sequence (gather l s one many) items)
  else do return (← sequence (l.expression s) items) ++ [make items.length]

def tuple (items : List Tree) : Lowered :=
  if items.any isStarred then do
    return .makeList 0 :: (← sequence (gather l s .append .extend) items) ++ [.listToTuple]
  else do return (← sequence (l.expression s) items) ++ [.makeTuple items.length]

/-- Entries put into the dictionary below them and below `waiting` further ones. -/
def entries (waiting : Nat) : List (Tree × Tree) → Lowered
  | [] => .ok (if waiting = 0 then [] else [.addEntries waiting])
  | (key, value) :: rest =>
    if key.isBlank then do
      let before ← entries waiting []
      return before ++ (← l.expression s value) ++ .merge :: (← entries 0 rest)
    else do
      return (← l.expression s key) ++ (← l.expression s value) ++ (← entries (waiting + 1) rest)

def dictionary (keys values : List Tree) : Lowered := do
  return .makeDict :: (← entries l s 0 (keys.zip values))

/-! ## Operators -/

def joined (instr : Code → Instr) : List Tree → Lowered
  | [] => .ok []
  | [t] => l.expression s t
  | t :: rest => do return (← l.expression s t) ++ [instr (← joined instr rest)]

/-- A chain of comparisons after its first operand. -/
def comparisons : List (Tree × Tree) → Lowered
  | [] => .ok []
  | [(op, t)] => do return (← l.expression s t) ++ [.compare (.ofSign op.text)]
  | (op, t) :: rest => do
    return (← l.expression s t) ++ [.chain (.ofSign op.text) (← comparisons rest)]

/-! ## Texts -/

def piece (t : Tree) : Lowered :=
  match t with
  | .node .formattedValue _ [value, mark, spec] => do
    let conversion := match mark with
      | .word w => w.toList.head?
      | _ => none
    let value ← l.expression s value
    if spec.isBlank then return value ++ [.format conversion false]
    else return value ++ (← l.expression s spec) ++ [.format conversion true]
  | t => l.expression s t

/-! ## Calls -/

/-- A named argument, put into what lies below it. -/
def namedArgument (t : Tree) : Lowered := do
  let value ← l.expression s (t.field 1)
  match t.field 0 with
  | .word w => return .push (.text w) :: value ++ [.addNamed]
  | _ => return value ++ [.mergeNamed]

/-- The line of a named argument with the name of one before it. -/
def namedTwice? (seen : List String) : List Tree → Option Nat
  | [] => none
  | t :: rest =>
    match t.field 0 with
    | .word w =>
      if seen.contains w || w = "__debug__" then some (lineOf t) else namedTwice? (w :: seen) rest
    | _ => namedTwice? seen rest

def call (f : Tree) (positional named : List Tree) : Lowered := do
  if let some line := namedTwice? [] named then throw line
  let f ← l.expression s f
  if positional.any isStarred || named.any fun t => (t.field 0).isBlank then
    let items ← match positional with
      | [.node .starred _ (t :: _)] => l.expression s t
      | ts => do pure (.makeList 0 :: (← sequence (gather l s .append .extend) ts))
    let entries ← sequence (namedArgument l s) named
    return f ++ items ++ .makeDict :: entries ++ [.callWith]
  else
    let items ← sequence (l.expression s) positional
    let values ← sequence (fun t => l.expression s (t.field 1)) named
    return f ++ items ++ values ++
      [.call positional.length (named.map fun t => (t.field 0).text)]

/-! ## Functions -/

/-- Whether the code of a function gives results piece by piece. -/
def yields (body : Tree) : Bool :=
  (ownNodes false body).any fun t => t.kind? = some .yield || t.kind? = some .yieldFrom

/-- The definition of a function, given how to lower its body in its own scope. -/
def function (name : String) (ps body : Tree) (waits : Bool)
    (lowerBody : Scope → Lowered) : Lowered := do
  let parameters := Parameters.ofTree ps
  let path := s.pathOf name
  let generates := yields body
  let inner :=
    { Scope.inside s.visible path parameters.names (namesOf false body) with waits, generates }
  let defaults := (ps.field 6).items
  let namedDefaults := ((ps.field 3).items.zip (ps.field 4).items).filter fun p => !p.2.isBlank
  let values ← sequence (l.expression s) (defaults ++ namedDefaults.map (·.2))
  let code ← lowerBody inner
  let manner := if waits then Manner.waiting else if generates then .generator else .plain
  let signature : Signature :=
    { name, path, parameters, cells := inner.cells, outer := inner.outer, manner }
  return values ++
    [.function signature defaults.length (namedDefaults.map fun p => (p.1.field 0).text) code]

/-- The body of a function without a name. -/
def lambdaBody (body : Tree) (inner : Scope) : Lowered := do
  return (← l.expression inner body) ++ [if inner.generates then .pop else .giveBack]

/-! ## Targets -/

/-- Stores the top in a single target. -/
def single (t : Tree) : Lowered :=
  match t with
  | .node .name _ (.word id :: _) => .ok [.store (s.home id) id]
  | .node .attr _ (value :: .word id :: _) => do return (← l.expression s value) ++ [.setAttr id]
  | .node .subscript _ (value :: item :: _) => do
    return (← l.expression s value) ++ (← l.expression s item) ++ [.setItem]
  | t => refuse t

/-- Stores the top in a target of any shape; nothing is deeper than `fuel`. -/
def target : Nat → Tree → Lowered
  | 0, t => refuse t
  | fuel + 1, t =>
    match t with
    | .node .tuple _ (.list items :: _) | .node .list _ (.list items :: _) => do
      let stores ← sequence (fun t => target fuel (if isStarred t then t.field 0 else t)) items
      match (items.filter isStarred).length with
      | 0 => return .unpack items.length :: stores
      | 1 =>
        let before := (items.takeWhile fun t => !isStarred t).length
        return .unpackAround before (items.length - before - 1) :: stores
      | _ => refuse t
    | t => single l s t

def depth (t : Tree) : Nat := t.nodes.length + 1

def store (t : Tree) : Lowered := target l s (depth t) t

/-- Deletes a target; nothing is deeper than `fuel`. -/
def delete : Nat → Tree → Lowered
  | 0, t => refuse t
  | fuel + 1, t =>
    match t with
    | .node .name _ (.word id :: _) => .ok [.delete (s.home id) id]
    | .node .attr _ (value :: .word id :: _) => do
      return (← l.expression s value) ++ [.deleteAttr id]
    | .node .subscript _ (value :: item :: _) => do
      return (← l.expression s value) ++ (← l.expression s item) ++ [.deleteItem]
    | .node .tuple _ (.list items :: _) | .node .list _ (.list items :: _) =>
      sequence (delete fuel) items
    | t => refuse t

/-! ## Comprehensions -/

/-- Goes on with `inner` only if all the tests hold. -/
def tested (inner : Code) : List Tree → Lowered
  | [] => .ok inner
  | t :: rest => do return (← l.expression s t) ++ [.branch (← tested inner rest) []]

/-- The loop of a clause over the iterator on the stack. -/
def clause (inner : Code) (t : Tree) : Lowered := do
  if t.field 3 matches .literal (.int 1) then
    if !s.waits then throw (lineOf (t.field 0))
  let stored ← store l s (t.field 0)
  let body ← tested l s inner (t.field 2).items
  return [.each (stored ++ body) []]

/-- The loops of further clauses. -/
def moreClauses (inner : Code) : List Tree → Lowered
  | [] => .ok inner
  | t :: rest => do
    let inner ← moreClauses inner rest
    let source ← l.expression s (t.field 1)
    return source ++ .iterate :: (← clause l s inner t)

/-- A comprehension: a function that is called at once with the iterator of its first source. -/
def comprehension (line : Nat) (name : String) (items clauses : List Tree) (start : Code)
    (item : Instr) (manner : Manner) : Lowered := do
  match clauses with
  | [] => return []
  | first :: rest =>
    let own := ((namesOf true (first.field 0)).join (namesOf false (first.field 2))).join
      ((namesOfAll false rest).join (namesOfAll false items))
    let path := s.pathOf name
    let inner := { Scope.gathering s.visible path own with
      waits := s.waits || manner = .generator || s.gathers }
    let waiting := clauses.any fun c => c.field 3 matches .literal (.int 1)
    let awaited := (ownNodesOf true (gatheredParts items clauses)).any fun t =>
      t.kind? = some .await || t.kind? = some .comprehension && t.field 3 matches .literal (.int 1)
    if (waiting || awaited) && manner != .generator && !s.waits && !s.gathers then throw line
    let values ← sequence (l.expression inner) items
    let loops ← moreClauses l inner (values ++ [item] ++ (if manner = .generator then [.pop] else []))
      rest
    let body ← clause l inner loops first
    let source ← l.expression s (first.field 1)
    let signature : Signature := {
      name, path, parameters := { positional := [".0"], positionalOnly := 1 }
      cells := inner.cells, outer := inner.outer, manner }
    let code := start ++ .load .frame ".0" :: body ++ (if manner = .generator then [] else [.giveBack])
    return .function signature 0 [] code :: source ++ [.iterate, .call 1 []]

/-! ## Expressions -/

def expression (t : Tree) : Lowered :=
  match t with
  | .node .constant _ (.literal v :: _) => .ok [.push v]
  | .node .name _ (.word id :: _) => .ok [.load (s.home id) id]
  | .node .attr _ (value :: .word id :: _) => do return (← l.expression s value) ++ [.getAttr id]
  | .node .subscript _ (value :: item :: _) => do
    return (← l.expression s value) ++ (← l.expression s item) ++ [.getItem]
  | .node .slice _ [lower, upper, stride] => do
    return (← optional l s lower) ++ (← optional l s upper) ++ (← optional l s stride) ++ [.makeSlice]
  | .node .tuple _ (.list items :: _) => tuple l s items
  | .node .list _ (.list items :: _) => display l s .makeList .append .extend items
  | .node .set _ (.list items :: _) => display l s .makeSet .add .addAll items
  | .node .dict _ [.list keys, .list values] => dictionary l s keys values
  | .node .unaryOp _ [.word op, value] => do
    return (← l.expression s value) ++ [.unary (.ofSign op)]
  | .node .binOp _ [left, .word op, right] => do
    return (← l.expression s left) ++ (← l.expression s right) ++ [.binary (.ofSign op)]
  | .node .boolOp _ [.word op, .list values] =>
    joined l s (if op = "and" then .andThen else .orElse) values
  | .node .compare _ [left, .list ops, .list rights] => do
    return (← l.expression s left) ++ (← comparisons l s (ops.zip rights))
  | .node .ifExp _ [test, yes, no] => do
    return (← l.expression s test) ++ [.branch (← l.expression s yes) (← l.expression s no)]
  | .node .lambda _ [ps, body] => function l s "<lambda>" ps body false (lambdaBody l body)
  | .node .call _ [f, .list positional, .list named] => call l s f positional named
  | .node .joinedStr _ [.list values] => do
    return (← sequence (piece l s) values) ++ [.makeText values.length]
  | .node .formattedValue .. => do return (← piece l s t) ++ [.makeText 1]
  | .node .namedExpr _ [.node .name _ (.word id :: _), value] => do
    return (← l.expression s value) ++ [.copy, .store (s.home id) id]
  | .node .listComp _ [item, .list clauses] =>
    comprehension l s (lineOf t) "<listcomp>" [item] clauses [.makeList 0] .collect .plain
  | .node .setComp _ [item, .list clauses] =>
    comprehension l s (lineOf t) "<setcomp>" [item] clauses [.makeSet 0] .collectItem .plain
  | .node .dictComp _ [key, value, .list clauses] =>
    comprehension l s (lineOf t) "<dictcomp>" [key, value] clauses [.makeDict] .collectEntry .plain
  | .node .generatorExp _ [item, .list clauses] =>
    comprehension l s (lineOf t) "<genexpr>" [item] clauses [] .yield .generator
  | .node .await _ [value] =>
    if s.waits || s.gathers then do return (← l.expression s value) ++ [.await] else refuse t
  | .node .yield _ [value] => do return (← optional l s value) ++ [.yield]
  | .node .yieldFrom _ [value] =>
    if s.waits then refuse t else do return (← l.expression s value) ++ [.iterate, pushNone, .yieldFrom]
  | t => refuse t

/-! ## Statements -/

def block (t : Tree) : Lowered := sequence (l.statement s) t.items

def loopBody (t : Tree) : Lowered := sequence (l.statement { s with inLoop := true }) t.items

/-- Stores the value on the stack in all targets. -/
def assign : List Tree → Lowered
  | [] => .ok [.pop]
  | [t] => store l s t
  | t :: rest => do return .copy :: (← store l s t) ++ (← assign rest)

/-- An assignment that changes its target. -/
def change (t value : Tree) (op : BinaryOp) : Lowered := do
  let value ← l.expression s value
  match t with
  | .node .name _ (.word id :: _) =>
    return [.load (s.home id) id] ++ value ++ [.change op, .store (s.home id) id]
  | .node .attr _ (object :: .word id :: _) =>
    return (← l.expression s object) ++ [.copy, .getAttr id] ++ value ++
      [.change op, .under, .setAttr id]
  | .node .subscript _ (object :: item :: _) =>
    return (← l.expression s object) ++ (← l.expression s item) ++ [.copyTwo, .getItem] ++ value ++
      [.change op, .underTwo, .setItem]
  | t => refuse t

/-- A target with a note but without a value, of which only the parts are computed. -/
def noted (t : Tree) : Lowered :=
  match t with
  | .node .attr _ (object :: _) => do return (← l.expression s object) ++ [.pop]
  | .node .subscript _ (object :: item :: _) => do
    return (← l.expression s object) ++ [.pop] ++ (← l.expression s item) ++ [.pop]
  | _ => .ok []

/-- Handlers, with the error on the stack. -/
def handlers : List Tree → Lowered
  | [] => .ok [.reraise]
  | .node .exceptHandler line [type, name, body] :: rest => do
    let code ← block l s body
    let run : Code := match name with
      | .word id =>
        [.store (s.home id) id,
          .cleanup code [pushNone, .store (s.home id) id, .delete (s.home id) id]]
      | _ => .pop :: code
    if type.isBlank then
      if rest.isEmpty then return run else throw (line.getD 0).toNat
    else return (← l.expression s type) ++ [.isError, .branch run (← handlers rest)]
  | t :: _ => refuse t

def context (t : Tree) : Lowered := do
  let value ← l.expression s (t.field 0)
  let stored ← if (t.field 1).isBlank then pure [.pop] else store l s (t.field 1)
  return value ++ .enterContext :: stored

def withContexts (items : List Tree) (body : Tree) : Lowered := do
  let opened ← sequence (context l s) items
  return opened ++ (← block l s body)

/-- A loop over items. -/
def eachLoop (t source body otherwise : Tree) : Lowered := do
  let source ← l.expression s source
  let stored ← store l s t
  let body ← loopBody l s body
  return source ++ [.iterate, .each (stored ++ body) (← block l s otherwise)]

/-- The definition of a function under its decorators. -/
def definition (t : Tree) (waits : Bool) : Lowered := do
  let id := (t.field 0).text
  let body := t.field 2
  let decorators ← sequence (l.expression s) (t.field 3).items
  let made ← function l s id (t.field 1) body waits fun inner => block l inner body
  let calls := List.replicate (t.field 3).items.length (Instr.call 1 [])
  return decorators ++ made ++ calls ++ [.store (s.home id) id]

def statement (t : Tree) : Lowered :=
  match t with
  | .node .exprStmt _ [e] => do return (← l.expression s e) ++ [.pop]
  | .node .assign _ (.list targets :: value :: _) => do
    return (← l.expression s value) ++ (← assign l s targets)
  | .node .augAssign _ [t, .word op, value] => change l s t value (.ofSign op)
  | .node .annAssign _ (t :: _ :: value :: _) =>
    if value.isBlank then noted l s t
    else do return (← l.expression s value) ++ (← store l s t)
  | .node .forStmt _ (t :: source :: body :: otherwise :: _) => eachLoop l s t source body otherwise
  | .node .asyncFor _ (target :: source :: body :: otherwise :: _) =>
    if s.waits then do
      let _ ← eachLoop l s target source body otherwise
      return [.unsupported "async for"]
    else refuse t
  | .node .asyncWith _ (.list items :: body :: _) =>
    if s.waits then do
      let _ ← withContexts l s items body
      return [.unsupported "async with"]
    else refuse t
  | .node .whileStmt _ [test, body, otherwise] => do
    let head ← l.expression s test
    let body ← loopBody l s body
    return [.loop (head ++ [.branch body [.quit (← block l s otherwise)]])]
  | .node .ifStmt _ [test, body, otherwise] => do
    return (← l.expression s test) ++ [.branch (← block l s body) (← block l s otherwise)]
  | .node .withStmt _ (.list items :: body :: _) => withContexts l s items body
  | .node .matchStmt .. => .ok [.unsupported "match"]
  | .node .raiseStmt _ [e, cause] =>
    if e.isBlank then .ok [.raise 0]
    else if cause.isBlank then do return (← l.expression s e) ++ [.raise 1]
    else do return (← l.expression s e) ++ (← l.expression s cause) ++ [.raise 2]
  | .node .tryStmt _ [body, .list hs, otherwise, last] => do
    let code ← block l s body
    let guarded ← if hs.isEmpty then do pure (code ++ (← block l s otherwise))
      else do pure [.guarded code (← handlers l s hs) (← block l s otherwise)]
    if last.items.isEmpty then return guarded
    else return [.cleanup guarded (← block l s last)]
  | .node .tryStar .. => .ok [.unsupported "except*"]
  | .node .assertStmt _ [test, message] => do
    let test ← l.expression s test
    let failing ← if message.isBlank then pure [.failAssertion false]
      else do pure ((← l.expression s message) ++ [.failAssertion true])
    return test ++ [.branch [] failing]
  | .node .deleteStmt _ [.list targets] => sequence (fun t => delete l s (depth t) t) targets
  | .node .functionDef .. => definition l s t false
  | .node .asyncFunctionDef .. => definition l s t true
  | .node .returnStmt _ [value] =>
    if s.waits && s.generates && !value.isBlank then refuse t
    else do return (← optional l s value) ++ [.giveBack]
  | .node .passStmt .. => .ok []
  | .node .breakStmt .. => if s.inLoop then .ok [.leave] else refuse t
  | .node .continueStmt .. => if s.inLoop then .ok [.again] else refuse t
  | .node .nonlocalStmt .. => .ok []
  | t => refuse t

end Lower

/-- What lowers trees that are no deeper than given. -/
def lowerer : Nat → Lowerer
  | 0 => ⟨fun _ t => Lower.refuse t, fun _ t => Lower.refuse t⟩
  | n + 1 => ⟨fun s t => Lower.expression (lowerer n) s t, fun s t => Lower.statement (lowerer n) s t⟩

/-- The code of a script whose body is that of a function of the given name and parameters. -/
def lowered (name : String) (parameters : List String) (script : Tree) : Lowered :=
  let body := script.field 0
  match misdeclared? parameters body with
  | some line => .error line
  | none =>
    let scope :=
      { Scope.inside [] name parameters (namesOf false body) with generates := Lower.yields body }
    Lower.block (lowerer (script.nodes.length + 1)) scope body

end Userscript.Machine
