import Userscript.Machine.Code

/-!
# Userscript.Machine.Scope

Which variables a function has, and where each lives.

A variable belongs to the function in which it is bound: as a parameter, by an assignment, a loop, a
definition and so on. A comprehension is a function of its own, apart from its first source; names given
on the way in it belong to the function around it. Inner functions share the variables of outer ones,
which are then kept in cells.

* `namesOf` collects what a piece of source does with names;
* `Scope.inside` settles the variables of a function, and `Scope.home` tells where one lives.
-/

namespace Userscript.Machine

open Syntax

/-- What a piece of source does with names, in its own function. -/
structure Names where
  bound : List String := []
  used : List String := []
  /-- Given on the way in an expression. -/
  given : List String := []
  /-- Declared to belong to an outer function. -/
  declared : List String := []
  /-- What inner functions need from outside. -/
  inner : List String := []
deriving Inhabited

namespace Names

/-- What two pieces do with names. -/
def join (a b : Names) : Names :=
  ⟨a.bound ++ b.bound, a.used ++ b.used, a.given ++ b.given, a.declared ++ b.declared,
    a.inner ++ b.inner⟩

/-- The variables of a function with the given parameters. -/
def locals (n : Names) (parameters : List String) : List String :=
  (parameters ++ n.bound ++ n.given).eraseDups.filter fun x => !n.declared.contains x

/-- What a function with the given variables needs from outside. -/
def needs (n : Names) (locals : List String) : List String :=
  (n.used ++ n.given ++ n.inner ++ n.declared).eraseDups.filter fun x => !locals.contains x

end Names

def parameterNames (ps : Tree) : List String := ps.items.map fun p => (p.field 0).text

/-- The name of a single parameter, if there is one. -/
def parameterName? (p : Tree) : Option String := if p.isBlank then none else some (p.field 0).text

def Parameters.ofTree (t : Tree) : Parameters where
  positional := parameterNames (t.field 0) ++ parameterNames (t.field 1)
  positionalOnly := (t.field 0).items.length
  rest := parameterName? (t.field 2)
  named := parameterNames (t.field 3)
  others := parameterName? (t.field 5)

def words (t : Tree) : List String := t.items.map Tree.text

/-- The name in a field, unless it is blank. -/
def wordOf : Tree → List String
  | .word s => [s]
  | _ => []

/-- What a note, which is never computed, does with names in the function around it. -/
def Names.ofNote (n : Names) : Names := { given := n.given }

/-- What the definition of a function does with names in the function around it, given what its parameters,
its body and all else do. -/
def Names.ofFunction (id : List String) (ps : Tree) (defaults body more : Names) : Names :=
  let inner := body.needs (body.locals (Parameters.ofTree ps).names)
  (({ bound := id, inner } : Names).join defaults).join more

/-- What a comprehension does with names in the function around it, given what its first source, its first
target and all else do. -/
def Names.ofComprehension (source target tests more item : Names) : Names :=
  let own := ((target.join tests).join more).join item
  source.join { given := own.given, inner := own.needs own.bound }

mutual

/-- What a piece of source does with names; `store` tells that it is assigned to. -/
def namesOf (store : Bool) : Tree → Names
  | .node .name _ (.word id :: _) => if store then { bound := [id] } else { used := [id] }
  | .node .attr _ fields => namesOfAll false fields
  | .node .subscript _ fields => namesOfAll false fields
  | .node .assign _ (targets :: value :: _) => (namesOf true targets).join (namesOf false value)
  | .node .augAssign _ (target :: _ :: value :: _) =>
    ((namesOf true target).join (namesOf false target)).join (namesOf false value)
  | .node .annAssign _ (target :: note :: value :: _) =>
    ((namesOf true target).join (namesOf false note).ofNote).join (namesOf false value)
  | .node .arg _ (_ :: note :: _) => (namesOf false note).ofNote
  | .node .forStmt _ (target :: more) => (namesOf true target).join (namesOfAll false more)
  | .node .asyncFor _ (target :: more) => (namesOf true target).join (namesOfAll false more)
  | .node .comprehension _ (target :: more) => (namesOf true target).join (namesOfAll false more)
  | .node .withItem _ (value :: target :: _) => (namesOf false value).join (namesOf true target)
  | .node .deleteStmt _ (targets :: _) => namesOf true targets
  | .node .namedExpr _ (.node .name _ (.word id :: _) :: value :: _) =>
    ({ given := [id] } : Names).join (namesOf false value)
  | .node .functionDef _ (.word id :: ps :: body :: decorators :: returns :: _) =>
    .ofFunction [id] ps (namesOf false ps) (namesOf false body)
      ((namesOf false decorators).join (namesOf false returns).ofNote)
  | .node .asyncFunctionDef _ (.word id :: ps :: body :: decorators :: returns :: _) =>
    .ofFunction [id] ps (namesOf false ps) (namesOf false body)
      ((namesOf false decorators).join (namesOf false returns).ofNote)
  | .node .lambda _ (ps :: body :: _) =>
    .ofFunction [] ps (namesOf false ps) (namesOf false body) {}
  | .node .listComp _ [item, .list (.node .comprehension _ (target :: source :: tests) :: more)] =>
    .ofComprehension (namesOf false source) (namesOf true target) (namesOfAll false tests)
      (namesOfAll false more) (namesOf false item)
  | .node .setComp _ [item, .list (.node .comprehension _ (target :: source :: tests) :: more)] =>
    .ofComprehension (namesOf false source) (namesOf true target) (namesOfAll false tests)
      (namesOfAll false more) (namesOf false item)
  | .node .generatorExp _
      [item, .list (.node .comprehension _ (target :: source :: tests) :: more)] =>
    .ofComprehension (namesOf false source) (namesOf true target) (namesOfAll false tests)
      (namesOfAll false more) (namesOf false item)
  | .node .dictComp _
      [key, value, .list (.node .comprehension _ (target :: source :: tests) :: more)] =>
    .ofComprehension (namesOf false source) (namesOf true target) (namesOfAll false tests)
      (namesOfAll false more) ((namesOf false key).join (namesOf false value))
  | .node .exceptHandler _ (type :: name :: body :: _) =>
    (({ bound := wordOf name } : Names).join (namesOf false type)).join (namesOf false body)
  | .node .matchAs _ (inner :: name :: _) =>
    ({ bound := wordOf name } : Names).join (namesOf false inner)
  | .node .matchStar _ (name :: _) => { bound := wordOf name }
  | .node .matchMapping _ (keys :: patterns :: rest :: _) =>
    (({ bound := wordOf rest } : Names).join (namesOf false keys)).join (namesOf false patterns)
  | .node .nonlocalStmt _ (names :: _) => { declared := words names }
  | .node kind _ fields =>
    namesOfAll (store && (kind = .tuple || kind = .list || kind = .starred)) fields
  | .list items => namesOfAll store items
  | _ => {}

/-- What several pieces of source do with names. -/
def namesOfAll (store : Bool) : List Tree → Names
  | [] => {}
  | t :: rest => (namesOf store t).join (namesOfAll store rest)

end

/-- The variables of a function, and what lowering needs to know of the place where code stands. -/
structure Scope where
  locals : List String
  cells : List String
  outer : List String
  /-- The variables that inner functions can share. -/
  visible : List String
  /-- The names of the functions around, from the outermost. -/
  path : String
  /-- Whether the code stands in a loop. -/
  inLoop : Bool := false
  /-- Whether the function may wait. -/
  waits : Bool := false
  /-- Whether the function gives results piece by piece. -/
  generates : Bool := false
  /-- Whether the function is a comprehension. -/
  gathers : Bool := false
deriving Inhabited

namespace Scope

/-- The scope of a function, given the variables of the functions around it, its parameters and what it
does with names. -/
def inside (visible : List String) (path : String) (parameters : List String) (names : Names) : Scope :=
  let locals := names.locals parameters
  { locals
    cells := locals.filter names.inner.contains
    outer := (names.needs locals).filter visible.contains
    visible := (locals ++ visible).eraseDups
    path }

def gathering (visible : List String) (path : String) (names : Names) : Scope :=
  let locals := names.bound.eraseDups
  { locals
    cells := locals.filter names.inner.contains
    outer := (names.needs locals).filter visible.contains
    visible := (locals ++ visible).eraseDups
    path
    gathers := true }

/-- Where a variable lives. -/
def home (s : Scope) (name : String) : Home :=
  if s.cells.contains name then .cell
  else if s.locals.contains name then .frame
  else if s.outer.contains name then .outer
  else .builtin

/-- The path of a function that is defined here. -/
def pathOf (s : Scope) (name : String) : String :=
  s.path ++ (if s.gathers then "." else ".<locals>.") ++ name

end Scope
end Userscript.Machine
