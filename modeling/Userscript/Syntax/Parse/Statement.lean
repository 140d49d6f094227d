import Userscript.Syntax.Parse.Pattern

/-!
# Userscript.Syntax.Parse.Statement

Statements. A line holds simple statements with semicolons between them; a compound statement holds
blocks, each an indented group of lines or the rest of its own line.

The parsers here take those of patterns and statements as parameters, as `Rules` does for expressions.
-/

namespace Userscript.Syntax.Parse

variable (r : Rules)

/-! ## Simple statements -/

/-- Operators that change a variable. -/
def changeSigns : List String :=
  ["+=", "-=", "*=", "@=", "/=", "%=", "&=", "|=", "^=", "<<=", ">>=", "**=", "//="]

def assigned : Parse Tree := do
  if ← at? "yield" then yieldExpression r else starExpressions r

/-- The targets after the first, last first, and the value. -/
def chainFrom : Nat → List Tree → Tree → Parse (List Tree × Tree)
  | 0, _, _ => fail
  | fuel + 1, targets, value => do
    if ← at? "=" then
      let target ← asTarget value
      skip
      let value ← assigned r
      chainFrom fuel (target :: targets) value
    else return (targets, value)

/-- An expression on its own, or an assignment. -/
def expressionStatement : Parse Tree := do
  let first ← peek
  let line := first.line
  let e ← assigned r
  let t ← peek
  if t.isWord "=" then
    let (targets, value) ← chainFrom r (← bound) [] e
    return node .assign line [.list targets.reverse, value, .blank]
  else if t.isWord ":" && e.kind? ≠ some .yield then
    if isSingle e then
      skip
      let annotation ← r.expression
      let value ← if ← accept "=" then assigned r else pure .blank
      let simple := e.kind? = some .name && first.kind = .name
      return node .annAssign line [e, annotation, value, .literal (.int (if simple then 1 else 0))]
    else
      skip
      let _ ← r.expression
      blame (lineOf e)
  else if changeSigns.any t.isWord then
    if isSingle e then
      skip
      let value ← assigned r
      let op := String.ofList t.text.toList.dropLast
      return node .augAssign line [e, .word op, value]
    else
      skip
      let _ ← assigned r
      blame (lineOf e)
  else return node .exprStmt line [e]

def nameList : Parse Tree := do
  let names ← listOf "," (pure true) name
  if ← justPassed "," then fail
  return .list (names.map .word)

def dottedText : Nat → String → Parse String
  | 0, s => return s
  | fuel + 1, s => do
    if ← accept "." then
      let id ← name
      dottedText fuel (s ++ "." ++ id)
    else return s

/-- An optional other name for what is imported. -/
def otherName : Parse Tree := do
  if ← accept "as" then return .word (← name) else return .blank

def importedModule : Parse Tree := do
  let line ← lineHere
  let id ← dottedText (← bound) (← name)
  let other ← otherName
  return node .alias line [.word id, other]

/-- A name that is imported from a module. -/
def importedName : Parse Tree := do
  let line ← lineHere
  let id ← name
  let other ← otherName
  return node .alias line [.word id, other]

/-- The dots before a module. -/
def dotsFrom : Nat → Nat → Parse Nat
  | 0, n => return n
  | fuel + 1, n => do
    if ← accept "." then dotsFrom fuel (n + 1)
    else if ← accept "..." then dotsFrom fuel (n + 3)
    else return n

def importedNames : Parse (List Tree) := do
  let t ← peek
  if t.isWord "*" then
    skip
    return [node .alias t.line [.word "*", .blank]]
  else if t.isWord "(" then
    skip
    let names ← listOf "," (atKind .name) importedName
    expect ")"
    return names
  else
    let names ← listOf "," (atKind .name) importedName
    if ← justPassed "," then fail else return names

def importFrom : Parse Tree := do
  let line ← lineHere
  expect "from"
  let dots ← dotsFrom (← bound) 0
  let source ← if (← atKind .name) || dots = 0 then
      (fun s => Tree.word s) <$> (do dottedText (← bound) (← name))
    else pure .blank
  expect "import"
  let names ← importedNames
  return node .importFrom line [source, .list names, .literal (.int dots)]

def simpleStatement : Parse Tree := do
  let t ← peek
  if t.kind ≠ .keyword then expressionStatement r
  else match t.text with
    | "return" =>
      skip
      let v ← if ← atStarExpression then starExpressions r else pure .blank
      return node .returnStmt t.line [v]
    | "import" =>
      skip
      let names ← listOf "," (pure true) importedModule
      if ← justPassed "," then fail
      return node .importStmt t.line [.list names]
    | "from" => importFrom
    | "raise" =>
      skip
      if ← atExpression then
        let e ← r.expression
        let cause ← if ← accept "from" then r.expression else pure .blank
        return node .raiseStmt t.line [e, cause]
      else return node .raiseStmt t.line [.blank, .blank]
    | "pass" =>
      skip
      return node .passStmt t.line []
    | "break" =>
      skip
      return node .breakStmt t.line []
    | "continue" =>
      skip
      return node .continueStmt t.line []
    | "del" =>
      skip
      let targets ← listOf "," atStarExpression (starExpression r)
      let targets ← targets.mapM asDeleted
      return node .deleteStmt t.line [.list targets]
    | "assert" =>
      skip
      let e ← r.expression
      let message ← if ← accept "," then r.expression else pure .blank
      return node .assertStmt t.line [e, message]
    | "global" =>
      skip
      return node .globalStmt t.line [← nameList]
    | "nonlocal" =>
      skip
      return node .nonlocalStmt t.line [← nameList]
    | _ => expressionStatement r

/-- Simple statements after the first on a line, last first. -/
def lineFrom : Nat → List Tree → Parse (List Tree)
  | 0, out => return out
  | fuel + 1, out => do
    if ← accept ";" then
      if ← atKind .newline then return out
      else
        let t ← simpleStatement r
        lineFrom fuel (t :: out)
    else return out

def simpleLine : Parse (List Tree) := do
  let first ← simpleStatement r
  let all ← lineFrom r (← bound) [first]
  expectKind .newline
  return all.reverse

/-! ## Compound statements -/

variable (pattern : Parse Tree) (statement : Parse (List Tree))

/-- Statements up to the end of a block or of the source. -/
def statementsFrom : Nat → Array Tree → Parse (List Tree)
  | 0, out => return out.toList
  | fuel + 1, out => do
    let t ← peek
    if t.kind = .dedent || t.kind = .finish then return out.toList
    else
      let more ← statement
      statementsFrom fuel (out ++ more)

/-- A block after its colon. -/
def block : Parse (List Tree) := do
  if ← atKind .newline then
    skip
    expectKind .indent
    let body ← statementsFrom statement (← bound) #[]
    expectKind .dedent
    return body
  else simpleLine r

def suite : Parse Tree := do
  expect ":"
  return .list (← block r statement)

def elseSuite : Parse Tree := do
  if ← accept "else" then suite r statement else return .list []

/-- Conditions with their blocks, from `if` or `elif` on, and the last `else`. -/
def ifFrom : Nat → Parse Tree
  | 0 => fail
  | fuel + 1 => do
    let line ← lineHere
    skip
    let condition ← namedExpression r
    let body ← suite r statement
    let otherwise ← if ← at? "elif" then
        (fun t => Tree.list [t]) <$> ifFrom fuel
      else elseSuite r statement
    return node .ifStmt line [condition, body, otherwise]

/-- A loop over items, from `for` on; `line` is where the statement starts. -/
def forLoop (kind : Kind) (line : Nat) : Parse Tree := do
  expect "for"
  let target ← loopTarget r
  expect "in"
  let source ← starExpressions r
  let body ← suite r statement
  let otherwise ← elseSuite r statement
  return node kind line [target, source, body, otherwise, .blank]

def whileLoop : Parse Tree := do
  let line ← lineHere
  expect "while"
  let condition ← namedExpression r
  let body ← suite r statement
  let otherwise ← elseSuite r statement
  return node .whileStmt line [condition, body, otherwise]

/-- A context and perhaps a target for it. -/
def withItem : Parse Tree := do
  let e ← r.expression
  if ← accept "as" then
    let target ← asTarget (← targetItem r)
    if ← atAny [",", ")", ":"] then return bare .withItem [e, target] else fail
  else return bare .withItem [e, .blank]

/-- Contexts between brackets, and the colon after them. -/
def bracketedItems : Parse (List Tree) := do
  expect "("
  let items ← listOf "," atExpression (withItem r)
  expect ")"
  if ← at? ":" then return items else fail

/-- A statement with contexts, from `with` on; `line` is where it starts. -/
def withBlock (kind : Kind) (line : Nat) : Parse Tree := do
  expect "with"
  let bracketed? ← if ← at? "(" then attempt (bracketedItems r) else pure none
  let items ← match bracketed? with
    | some items => pure items
    | none => do
      let items ← listOf "," (pure true) (withItem r)
      if ← justPassed "," then fail else pure items
  let body ← suite r statement
  return node kind line [.list items, body, .blank]

def handler : Parse (Tree × Bool) := do
  let line ← lineHere
  expect "except"
  let grouped ← accept "*"
  if !grouped && (← at? ":") then
    let body ← suite r statement
    return (node .exceptHandler line [.blank, .blank, body], false)
  else
    let e ← r.expression
    if (← diagnosing) && (← at? ",") then blame (lineOf e)
    let id ← if ← accept "as" then
        (fun s => Tree.word s) <$> name
      else pure .blank
    let body ← suite r statement
    return (node .exceptHandler line [e, id, body], grouped)

/-- Handlers after the first, last first. All are of one kind. -/
def handlersFrom (grouped : Bool) : Nat → List Tree → Parse (List Tree)
  | 0, out => return out
  | fuel + 1, out => do
    if ← at? "except" then
      let (t, g) ← handler r statement
      if g = grouped then handlersFrom grouped fuel (t :: out)
      else
        let _ ← peek
        blameLast
    else return out

def tryBlock : Parse Tree := do
  let line ← lineHere
  expect "try"
  let body ← suite r statement
  if ← at? "except" then
    let (first, grouped) ← handler r statement
    let handlers ← handlersFrom r statement grouped (← bound) [first]
    let otherwise ← elseSuite r statement
    let finally' ← if ← accept "finally" then suite r statement else pure (.list [])
    return node (if grouped then .tryStar else .tryStmt) line
      [body, .list handlers.reverse, otherwise, finally']
  else
    expect "finally"
    let finally' ← suite r statement
    return node .tryStmt line [body, .list [], .list [], finally']

/-- A function, from `def` on; `line` is where it starts apart from its decorators. -/
def function (kind : Kind) (line : Nat) (decorators : List Tree) : Parse Tree := do
  expect "def"
  let id ← name
  expect "("
  let ps ← parameters r true ")"
  expect ")"
  let returns ← if ← accept "->" then r.expression else pure .blank
  let body ← suite r statement
  return node kind line [.word id, ps, body, .list decorators, returns, .blank]

def classBlock (decorators : List Tree) : Parse Tree := do
  let line ← lineHere
  expect "class"
  let id ← name
  let bracket ← lineHere
  let (bases, keywords) ← if ← accept "(" then arguments r bracket else pure ([], [])
  let body ← suite r statement
  return node .classDef line [.word id, .list bases, .list keywords, body, .list decorators]

def asyncBlock (decorators : List Tree) : Parse Tree := do
  let line ← lineHere
  expect "async"
  if ← at? "def" then function r statement .asyncFunctionDef line decorators
  else if !decorators.isEmpty then fail
  else if ← at? "for" then forLoop r statement .asyncFor line
  else withBlock r statement .asyncWith line

/-- Decorators, last first. -/
def decoratorsFrom : Nat → List Tree → Parse (List Tree)
  | 0, out => return out
  | fuel + 1, out => do
    if ← accept "@" then
      let t ← namedExpression r
      expectKind .newline
      decoratorsFrom fuel (t :: out)
    else return out

def decorated : Parse Tree := do
  let decorators := (← decoratorsFrom r (← bound) []).reverse
  if ← at? "class" then classBlock r statement decorators
  else if ← at? "async" then asyncBlock r statement decorators
  else
    let line ← lineHere
    function r statement .functionDef line decorators

/-- Whether the name with a meaning of its own is at hand. -/
def atSoft (w : String) : Parse Bool := do
  let t ← peek
  return t.kind = .name && t.text = w

def matchCase : Parse Tree := do
  if !(← atSoft "case") then fail
  skip
  let p ← casePattern pattern
  let guard' ← if ← accept "if" then namedExpression r else pure .blank
  let body ← suite r statement
  return bare .matchCase [p, guard', body]

/-- Cases of a match statement, last first. -/
def casesFrom : Nat → List Tree → Parse (List Tree)
  | 0, out => return out
  | fuel + 1, out => do
    if ← atSoft "case" then
      let t ← matchCase r pattern statement
      casesFrom fuel (t :: out)
    else return out

/-- The head of a match statement, up to its first case. -/
def matchHead : Parse Tree := do
  skip
  let line ← lineHere
  let items ← listOf "," atStarExpression (starNamedExpression r)
  let comma ← justPassed ","
  let subject ← match items with
    | [t] =>
      if !comma && t.kind? = some .starred then fail else pure (tupleOf line items comma)
    | items => pure (tupleOf line items true)
  expect ":"
  expectKind .newline
  expectKind .indent
  if ← atSoft "case" then return subject else fail

/-- A match statement. The word is no keyword, so that what follows decides whether it is one. -/
def matchBlock : Parse (Option Tree) := do
  let line ← lineHere
  attempt do
    let subject ← matchHead r
    let first ← matchCase r pattern statement
    let cases ← casesFrom r pattern statement (← bound) [first]
    expectKind .dedent
    return node .matchStmt line [subject, .list cases.reverse]

/-- A compound statement, or the simple statements of a line. -/
def statementOf : Parse (List Tree) := do
  let t ← peek
  let one (p : Parse Tree) : Parse (List Tree) := do return [← p]
  match t.kind with
  | .keyword =>
    match t.text with
    | "if" => one (do ifFrom r statement (← bound))
    | "for" => one (forLoop r statement .forStmt t.line)
    | "while" => one (whileLoop r statement)
    | "with" => one (withBlock r statement .withStmt t.line)
    | "try" => one (tryBlock r statement)
    | "def" => one (function r statement .functionDef t.line [])
    | "class" => one (classBlock r statement [])
    | "async" => one (asyncBlock r statement [])
    | _ => simpleLine r
  | .operator => if t.isWord "@" then one (decorated r statement) else simpleLine r
  | .name =>
    if t.text = "match" then
      match ← matchBlock r pattern statement with
      | some t => return [t]
      | none => simpleLine r
    else simpleLine r
  | .number | .text => simpleLine r
  | _ => fail

end Userscript.Syntax.Parse
