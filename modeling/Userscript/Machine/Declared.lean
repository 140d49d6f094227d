import Userscript.Machine.Scope

/-!
# Userscript.Machine.Declared

Declarations that contradict one another: what the grammar allows, but no function can be made of.

`misdeclared?` gives the line to blame in a script: a parameter that is named twice, a variable that is
declared to belong to an outer function after it was used or when no function around has it, a result
inside a comprehension or a note, or a name given on the way where a comprehension or a note does not allow it.
-/

namespace Userscript.Machine

open Syntax

def lineOf (t : Tree) : Nat := (t.line?.getD 0).toNat

/-- The fields of a node that are not computed in the function in which it stands: the body of a function, which is a
function of its own, and notes, which are never computed. -/
def apart : Kind → List Nat
  | .functionDef | .asyncFunctionDef => [2, 4]
  | .lambda | .arg | .annAssign => [1]
  | _ => []

mutual

/-- The nodes of the same function, each before those in its fields. Of a comprehension only the first source is
computed in the function; `through` enters comprehensions none the less, unless they give their items one by
one. -/
def ownNodes (through : Bool) : Tree → List Tree
  | .node .listComp line (item :: clauses) =>
    .node .listComp line (item :: clauses) :: gathered through through (ownNodes through item) clauses
  | .node .setComp line (item :: clauses) =>
    .node .setComp line (item :: clauses) :: gathered through through (ownNodes through item) clauses
  | .node .generatorExp line (item :: clauses) =>
    .node .generatorExp line (item :: clauses) :: gathered through false (ownNodes through item) clauses
  | .node .dictComp line (key :: value :: clauses) =>
    .node .dictComp line (key :: value :: clauses) ::
      gathered through through (ownNodes through key ++ ownNodes through value) clauses
  | .node kind line fields => .node kind line fields :: ownNodesBut through (apart kind) 0 fields
  | .list items => ownNodesBut through [] 0 items
  | _ => []

/-- The nodes of the fields from the field `i` on, without those of some fields. -/
def ownNodesBut (through : Bool) (without : List Nat) (i : Nat) : List Tree → List Tree
  | [] => []
  | t :: rest =>
    (if without.contains i then [] else ownNodes through t) ++ ownNodesBut through without (i + 1) rest

/-- The nodes of a comprehension, given those of its items. -/
def gathered (through enter : Bool) (items : List Tree) : List Tree → List Tree
  | [.list (.node .comprehension line (target :: source :: tests) :: more)] =>
    if enter then
      items ++ .node .comprehension line (target :: source :: tests) ::
        (ownNodes through target ++ ownNodes through source ++ ownNodesBut through [] 0 tests) ++
        ownNodesBut through [] 0 more
    else ownNodes through source
  | clauses => items ++ ownNodesBut through [] 0 clauses

end

/-- The nodes of several pieces of source. -/
def ownNodesOf (through : Bool) (ts : List Tree) : List Tree := ownNodesBut through [] 0 ts

/-! ## Parameters -/

/-- The parameters of a function in the order in which they are declared. -/
def declaredParameters (ps : Tree) : List Tree :=
  (ps.field 0).items ++ (ps.field 1).items ++ (ps.field 3).items ++
    [ps.field 2, ps.field 5].filter fun p => !p.isBlank

/-- The line of the first parameter that has the name of one before it. -/
def twice? (seen : List String) : List Tree → Option Nat
  | [] => none
  | p :: rest =>
    let id := (p.field 0).text
    if seen.contains id then some (lineOf p) else twice? (id :: seen) rest

/-! ## Variables of outer functions -/

mutual

/-- The parts of statements in the order in which they declare names; the blocks of a statement are parts
of their own. -/
def parts : Tree → List Tree
  | .node .ifStmt _ [test, body, otherwise] => test :: (parts body ++ parts otherwise)
  | .node .whileStmt _ [test, body, otherwise] => test :: (parts body ++ parts otherwise)
  | .node .forStmt line (target :: source :: body :: otherwise :: more) =>
    .node .forStmt line (target :: source :: .blank :: .blank :: more) ::
      (parts body ++ parts otherwise)
  | .node .asyncFor line (target :: source :: body :: otherwise :: more) =>
    .node .asyncFor line (target :: source :: .blank :: .blank :: more) ::
      (parts body ++ parts otherwise)
  | .node .withStmt _ (items :: body :: _) => items :: parts body
  | .node .asyncWith _ (items :: body :: _) => items :: parts body
  | .node .tryStmt _ [body, handlers, otherwise, last] =>
    parts body ++ parts otherwise ++ parts handlers ++ parts last
  | .node .tryStar _ [body, handlers, otherwise, last] =>
    parts body ++ parts otherwise ++ parts handlers ++ parts last
  | .node .exceptHandler line [type, name, body] =>
    .node .exceptHandler line [type, name, .blank] :: parts body
  | .node .matchStmt _ [subject, cases] => subject :: parts cases
  | .node .matchCase _ [pattern, guard', body] => pattern :: guard' :: parts body
  | .list items => partsOf items
  | t => [t]

/-- The parts of several statements. -/
def partsOf : List Tree → List Tree
  | [] => []
  | t :: rest => parts t ++ partsOf rest

end

/-- The line of the first declaration of a variable of an outer function that comes too late, given the
names seen and declared so far. -/
def late? (seen declared : List String) : List Tree → Option Nat
  | [] => none
  | t :: rest =>
    match t with
    | .node .nonlocalStmt _ (names :: _) =>
      if (words names).any seen.contains then some (lineOf t)
      else late? seen (words names ++ declared) rest
    | .node .annAssign _ [.node .name _ (.word id :: _), _, _, .literal (.int 1)] =>
      if declared.contains id then some (lineOf t) else late? (id :: seen) declared rest
    | t =>
      let n := namesOf false t
      late? (n.bound ++ n.used ++ n.given ++ seen) declared rest

/-- The line of a declaration in a function of a variable that no function around it has. -/
def unknown? (visible : List String) (body : Tree) : Option Nat :=
  ((ownNodes false body).find? fun t =>
    t.kind? = some .nonlocalStmt && (words (t.field 0)).any fun x => !visible.contains x).map lineOf

mutual

/-- The line of the first declaration of a variable that no function around has. -/
def unknownIn? (visible : List String) : Tree → Option Nat
  | .node .functionDef _ (_ :: ps :: body :: more) =>
    let own := (namesOf false body).locals (Parameters.ofTree ps).names
    unknown? visible body <|> unknownIn? (own ++ visible) body <|> unknownIn? visible ps <|>
      unknownInOf? visible more
  | .node .asyncFunctionDef _ (_ :: ps :: body :: more) =>
    let own := (namesOf false body).locals (Parameters.ofTree ps).names
    unknown? visible body <|> unknownIn? (own ++ visible) body <|> unknownIn? visible ps <|>
      unknownInOf? visible more
  | .node _ _ fields => unknownInOf? visible fields
  | .list items => unknownInOf? visible items
  | _ => none

/-- The line of the first such declaration in several pieces of source. -/
def unknownInOf? (visible : List String) : List Tree → Option Nat
  | [] => none
  | t :: rest => unknownIn? visible t <|> unknownInOf? visible rest

end

/-! ## Comprehensions -/

/-- What a comprehension with the given items and clauses computes in its own function: all but its first
source. -/
def gatheredParts (items clauses : List Tree) : List Tree :=
  match clauses with
  | .node _ _ (target :: _ :: tests) :: more => items ++ target :: tests ++ more
  | _ => items

/-- The line of what cannot stand in a comprehension with the given items and clauses. -/
def misgathered? (items clauses : List Tree) : Option Nat :=
  let inside := ownNodesOf true (gatheredParts items clauses)
  let targets := (namesOfAll false clauses).bound
  let result? := inside.find? fun t => t.kind? = some .yield || t.kind? = some .yieldFrom
  let source? := (clauses.flatMap fun c => (c.field 1).nodes).find? fun t =>
    t.kind? = some .namedExpr
  let again? := inside.find? fun t =>
    t.kind? = some .namedExpr && targets.contains ((t.field 0).field 0).text
  (source? <|> again? <|> result?).map lineOf

/-! ## Notes -/

/-- Whether a node cannot stand in a note, which is never computed: a result given piece by piece, a wait, or a name
given on the way. -/
def isComputed (t : Tree) : Bool :=
  t.kind? = some .yield || t.kind? = some .yieldFrom || t.kind? = some .await || t.kind? = some .namedExpr

/-- The line of what cannot stand in a note. -/
def misnoted? (note : Tree) : Option Nat := ((ownNodes false note).find? isComputed).map lineOf

/-! ## Whole scripts -/

/-- The line to blame in a node by itself. -/
def misdeclaredHere? (t : Tree) : Option Nat :=
  match t with
  | .node .functionDef _ (_ :: ps :: body :: more) | .node .asyncFunctionDef _ (_ :: ps :: body :: more) =>
    misnoted? (more.getD 1 .blank) <|> twice? [] (declaredParameters ps) <|>
      late? (Parameters.ofTree ps).names [] (parts body)
  | .node .lambda _ (ps :: _) => twice? [] (declaredParameters ps)
  | .node .arg _ (_ :: note :: _) | .node .annAssign _ (_ :: note :: _) => misnoted? note
  | .node .listComp _ [item, clauses] | .node .setComp _ [item, clauses]
  | .node .generatorExp _ [item, clauses] => misgathered? [item] clauses.items
  | .node .dictComp _ [key, value, clauses] => misgathered? [key, value] clauses.items
  | _ => none

/-- The line to blame in a script whose body is that of a function with the given parameters. -/
def misdeclared? (parameters : List String) (body : Tree) : Option Nat :=
  ((late? parameters [] (parts body)).toList ++ body.nodes.filterMap misdeclaredHere?).min? <|>
    unknown? [] body <|>
    unknownIn? ((namesOf false body).locals parameters) body

end Userscript.Machine
