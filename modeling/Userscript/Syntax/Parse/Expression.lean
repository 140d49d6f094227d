import Userscript.Syntax.Parse.Target
import Userscript.Syntax.Token.Text

/-!
# Userscript.Syntax.Parse.Expression

Expressions.

`Rules` holds the parsers for what an expression may contain; the parsers here are built from them and
do not call themselves, so that recursion can be tied in one place. From loose to tight an expression
is: a lambda or a condition, `or`, `and`, `not`, comparisons, the binary operators in six levels, the
signs, `**`, `await`, calls with attributes and items, and atoms.
-/

namespace Userscript.Syntax

/-- Parsers for the parts of an expression. -/
structure Rules where
  expression : Parse Tree
  disjunction : Parse Tree
  bitOr : Parse Tree
  factor : Parse Tree
  /-- The expression of a field of a text, given the line on which it starts. -/
  embedded : Nat → List Char → Parse Tree

namespace Parse

/-- Words with which an expression can begin. -/
def openers : List String :=
  ["True", "False", "None", "not", "lambda", "await", "(", "[", "\x7b", "-", "+", "~", "..."]

/-- Whether an expression can begin with a token. -/
def opensExpression (t : Token) : Bool :=
  t.kind = .name || t.kind = .number || t.kind = .text || openers.any t.isWord

def atExpression : Parse Bool := do return opensExpression (← peek)

/-- Whether an expression begins here, perhaps with a star. -/
def atStarExpression : Parse Bool := do
  let t ← peek
  return opensExpression t || t.isWord "*"

def constant (line : Nat) (value : Literal) : Tree := node .constant line [.literal value, .blank]

/-! ## Binary operators -/

/-- Operands with operators between them, grouped from the left. -/
def leftChain (ops : List String) (operand : Parse Tree) (line : Nat) : Nat → Tree → Parse Tree
  | 0, left => return left
  | fuel + 1, left => do
    let t ← peek
    if !ops.any t.isWord then return left
    else match ← attempt (do skip; operand) with
      | some right => leftChain ops operand line fuel (node .binOp line [left, .word t.text, right])
      | none => return left

def level (ops : List String) (operand : Parse Tree) : Parse Tree := do
  let line ← lineHere
  leftChain ops operand line (← bound) (← operand)

/-- The levels of binary operators above the signs. -/
def bitOrOf (factor : Parse Tree) : Parse Tree :=
  level ["|"] (level ["^"] (level ["&"] (level ["<<", ">>"] (level ["+", "-"]
    (level ["*", "/", "//", "%", "@"] factor)))))

/-- Signs with their lines, outermost first. -/
def signsFrom : Nat → List (String × Nat) → Parse (List (String × Nat))
  | 0, signs => return signs
  | fuel + 1, signs => do
    let t ← peek
    if t.isWord "+" || t.isWord "-" || t.isWord "~" then
      skip
      signsFrom fuel ((t.text, t.line) :: signs)
    else return signs

def factorOf (power : Parse Tree) : Parse Tree := do
  let signs ← signsFrom (← bound) []
  let operand ← power
  return signs.foldl (fun t (sign, line) => node .unaryOp line [.word sign, t]) operand

/-- An operand with an exponent, which may have signs of its own. -/
def powerOf (operand factor : Parse Tree) : Parse Tree := do
  let line ← lineHere
  let left ← operand
  further left do
    expect "**"
    let right ← factor
    return node .binOp line [left, .word "**", right]

/-! ## Comparisons and logic -/

def comparison : Parse String := do
  let t ← peek
  if ["==", "!=", "<=", "<", ">=", ">", "in"].any t.isWord then
    skip
    return t.text
  else if t.isWord "not" then
    skip
    expect "in"
    return "not in"
  else if t.isWord "is" then
    skip
    if ← accept "not" then return "is not" else return "is"
  else fail

def comparedTo (operand : Parse Tree) : Parse (String × Tree) := do
  let op ← comparison
  let right ← operand
  return (op, right)

/-- The rest of a chain of comparisons. -/
def comparisonsFrom (operand : Parse Tree) : Nat → List (String × Tree) → Parse (List (String × Tree))
  | 0, out => return out.reverse
  | fuel + 1, out => do
    match ← attempt (comparedTo operand) with
    | none => return out.reverse
    | some c => comparisonsFrom operand fuel (c :: out)

def comparisonOf (operand : Parse Tree) : Parse Tree := do
  let line ← lineHere
  let left ← operand
  let more ← comparisonsFrom operand (← bound) []
  if more.isEmpty then return left
  else return node .compare line [left, .list (more.map fun p => .word p.1), .list (more.map (·.2))]

/-- The lines of words `not`, last first. -/
def notsFrom : Nat → List Nat → Parse (List Nat)
  | 0, lines => return lines
  | fuel + 1, lines => do
    let t ← peek
    if t.isWord "not" then
      skip
      notsFrom fuel (t.line :: lines)
    else return lines

def inversionOf (operand : Parse Tree) : Parse Tree := do
  let lines ← notsFrom (← bound) []
  let t ← operand
  return lines.foldl (fun t line => node .unaryOp line [.word "not", t]) t

/-- Further operands after a word. -/
def operandsFrom (w : String) (operand : Parse Tree) : Nat → List Tree → Parse (List Tree)
  | 0, out => return out.reverse
  | fuel + 1, out => do
    match ← attempt (do expect w; operand) with
    | some t => operandsFrom w operand fuel (t :: out)
    | none => return out.reverse

def joinedBy (w : String) (operand : Parse Tree) : Parse Tree := do
  let line ← lineHere
  let first ← operand
  let all ← operandsFrom w operand (← bound) [first]
  match all with
  | [_] => return first
  | all => return node .boolOp line [.word w, .list all]

/-- Operands joined by `or`. -/
def disjunctionOf (bitOr : Parse Tree) : Parse Tree :=
  joinedBy "or" (joinedBy "and" (inversionOf (comparisonOf bitOr)))

/-! ## Parameters -/

/-- Parameters read so far, lists last first. -/
structure Parameters where
  positionalOnly : List Tree := []
  plain : List Tree := []
  rest : Tree := .blank
  named : List Tree := []
  namedDefaults : List Tree := []
  keywords : Tree := .blank
  defaults : List Tree := []
  /-- Whether a slash, a star or two stars were passed. -/
  slash : Bool := false
  star : Bool := false
  closed : Bool := false

def Parameters.tree (p : Parameters) : Tree :=
  bare .arguments [.list p.positionalOnly.reverse, .list p.plain.reverse, p.rest,
    .list p.named.reverse, .list p.namedDefaults.reverse, p.keywords, .list p.defaults.reverse]

variable (r : Rules)

/-- A parameter with an annotation if those are allowed; behind a star the annotation may have one
too. -/
def parameter (annotated starred : Bool) : Parse Tree := do
  let line ← lineHere
  let id ← name
  let noted ← if annotated then accept ":" else pure false
  if noted then
    let starLine ← lineHere
    let spread ← if starred then accept "*" else pure false
    if spread then
      let t ← r.bitOr
      return node .arg line [.word id, node .starred starLine [t, .blank], .blank]
    else
      let t ← r.expression
      return node .arg line [.word id, t, .blank]
  else return node .arg line [.word id, .blank, .blank]

/-- One parameter, or one of the marks between them. -/
def parameterStep (annotated : Bool) (closing : String) (p : Parameters) : Parse Parameters := do
  let t ← peek
  if p.closed then fail
  else if t.isWord "/" then
    if p.slash || p.star || p.plain.isEmpty then fail
    else
      skip
      return { p with positionalOnly := p.plain, plain := [], slash := true }
  else if t.isWord "**" then
    skip
    let keywords ← parameter r annotated false
    return { p with keywords, closed := true }
  else if t.isWord "*" then
    if p.star then fail
    else
      skip
      if ← atKind .name then
        let rest ← parameter r annotated true
        return { p with rest, star := true }
      else
        if !(← at? ",") then blame t.line
        -- A bare star has to be followed by a parameter.
        if (← nextIs closing) || (← nextIs "**") then blame t.line
        return { p with star := true }
  else
    let a ← parameter r annotated false
    let value? ← if ← accept "=" then some <$> r.expression else pure none
    if p.star then
      return { p with named := a :: p.named, namedDefaults := value?.getD .blank :: p.namedDefaults }
    else match value? with
      | some value => return { p with plain := a :: p.plain, defaults := value :: p.defaults }
      | none =>
        if p.defaults.isEmpty then return { p with plain := a :: p.plain } else blame t.line

/-- Parameters up to the closing token, which is not passed. -/
def parametersFrom (annotated : Bool) (closing : String) : Nat → Parameters → Parse Tree
  | 0, p => return p.tree
  | fuel + 1, p => do
    if ← at? closing then return p.tree
    else
      let p ← parameterStep r annotated closing p
      if ← at? closing then return p.tree
      else
        expect ","
        parametersFrom annotated closing fuel p

/-- Parameters up to the closing token, which is not passed. -/
def parameters (annotated : Bool) (closing : String) : Parse Tree := do
  parametersFrom r annotated closing (← bound) {}

/-! ## Lists of expressions -/

/-- An expression, or a star and what it unpacks. -/
def starExpression : Parse Tree := do
  let line ← lineHere
  if ← accept "*" then
    let t ← r.bitOr
    return node .starred line [t, .blank]
  else r.expression

/-- Items as a tuple, unless it is one alone without a comma. -/
def tupleOf (line : Nat) (items : List Tree) (comma : Bool) : Tree :=
  match items, comma with
  | [t], false => t
  | items, _ => node .tuple line [.list items, .blank]

/-- Expressions with commas between them. -/
def starExpressions : Parse Tree := do
  let line ← lineHere
  let items ← listOf "," atStarExpression (starExpression r)
  return tupleOf line items (← justPassed ",")

/-- Whether an expression is no comparison and nothing looser, so that a sign of assignment after it is a
likely mistake. -/
def isTight (t : Tree) : Bool :=
  match t.kind? with
  | some .compare | some .boolOp | some .ifExp | some .lambda | some .namedExpr | some .list
  | some .tuple | some .generatorExp => false
  | some .unaryOp => (t.field 0).text ≠ "not"
  | some .constant =>
    match t.field 0 with
    | .literal (.bool _) | .literal .none => false
    | _ => true
  | _ => true

/-- Looks for a sign of assignment where none can be, after the expression `t`. -/
def diagnoseAssignment (t : Tree) : Parse Unit := do
  if !(← diagnosing) then return
  if ← at? ":=" then blame (lineOf t)
  else if (← at? "=") && isTight t then
    let c ← get
    skip
    let value? ← attempt r.bitOr
    let again ← atAny ["=", ":="]
    modify fun d => { d with pos := c.pos }
    if value?.isSome && !again then blame (lineOf t)

/-- An expression that may be given a name on the way. -/
def namedExpression : Parse Tree := do
  let t ← peek
  if t.kind = .name && (← nextIs ":=") then
    let id ← name
    skip
    let value ← r.expression
    return node .namedExpr t.line [node .name t.line [.word id, .blank], value]
  else
    let e ← r.expression
    diagnoseAssignment r e
    if ← at? ":=" then fail else return e

/-- A named expression, or a star and what it unpacks. -/
def starNamedExpression : Parse Tree := do
  let line ← lineHere
  if ← accept "*" then
    let t ← r.bitOr
    return node .starred line [t, .blank]
  else namedExpression r

/-- The value of a yield, from the word on. -/
def yieldExpression : Parse Tree := do
  let line ← lineHere
  expect "yield"
  if ← accept "from" then
    let t ← r.expression
    return node .yieldFrom line [t]
  else if ← atStarExpression then
    let t ← starExpressions r
    return node .yield line [t]
  else return node .yield line [.blank]

/-! ## Comprehensions -/

/-- A target, perhaps with a star. -/
def targetItem : Parse Tree := do
  let line ← lineHere
  if ← accept "*" then
    let t ← r.bitOr
    return node .starred line [t, .blank]
  else r.bitOr

def loopTarget : Parse Tree := do
  let line ← lineHere
  let items ← listOf "," atStarExpression (targetItem r)
  asTarget (tupleOf line items (← justPassed ","))

/-- Conditions of a clause, last first. -/
def conditionsFrom : Nat → List Tree → Parse (List Tree)
  | 0, out => return out
  | fuel + 1, out => do
    if ← accept "if" then
      let t ← r.disjunction
      conditionsFrom fuel (t :: out)
    else return out

/-- Whether a clause of a comprehension begins here. -/
def atClause : Parse Bool := atAny ["for", "async"]

/-- Clauses of a comprehension, last first. -/
def clausesFrom : Nat → List Tree → Parse (List Tree)
  | 0, out => return out
  | fuel + 1, out => do
    if !(← atClause) then return out
    let waits ← accept "async"
    expect "for"
    let target ← loopTarget r
    expect "in"
    let source ← r.disjunction
    let conditions ← conditionsFrom r (← bound) []
    clausesFrom fuel
      (bare .comprehension [target, source, .list conditions.reverse,
        .literal (.int (if waits then 1 else 0))] :: out)

def clauses : Parse Tree := do return .list (← clausesFrom r (← bound) []).reverse

/-- Refuses a star before the clauses of a comprehension. -/
def refuseStar (t : Tree) : Parse Unit :=
  if t.kind? = some .starred then do
    if ← diagnosing then blame (lineOf t) else fail
  else return

/-! ## Texts -/

/-- The tokens of texts that follow one another. -/
def textTokens : Nat → List Token → Parse (List Token)
  | 0, out => return out.reverse
  | fuel + 1, out => do
    let t ← peek
    if t.kind = .text then
      skip
      textTokens fuel (t :: out)
    else return out.reverse

/-- Literal pieces of a text side by side are one. -/
def joinLiterals : List Tree → List Tree
  | .node .constant line [.literal (.text a), kind] :: rest =>
    match joinLiterals rest with
    | .node .constant _ [.literal (.text b), _] :: more =>
      .node .constant line [.literal (.text (a ++ b)), kind] :: more
    | more => .node .constant line [.literal (.text a), kind] :: more
  | t :: rest => t :: joinLiterals rest
  | [] => []

mutual

/-- A piece of a text with fields. The text starts on the line `line` and its token on `start`. -/
def pieceValue (raw : Bool) (line start : Nat) : Piece → Parse (List Tree)
  | .literal cs =>
    match unescape? raw cs with
    | some cs => return [constant line (.text (String.ofList cs))]
    | none => blameLast
  | .field expr feeds shown conversion none => do
    let value ← r.embedded (start + feeds) ('(' :: expr ++ [')'])
    let mark := match conversion, shown with
      | some c, _ => Tree.word (String.singleton c)
      | none, some _ => .word "r"
      | none, none => .blank
    let before := shown.map fun cs => constant line (.text (String.ofList cs))
    return before.toList ++ [node .formattedValue line [value, mark, .blank]]
  | .field expr feeds shown conversion (some format) => do
    let value ← r.embedded (start + feeds) ('(' :: expr ++ [')'])
    let values ← piecesValues raw line start format
    let mark := match conversion with
      | some c => Tree.word (String.singleton c)
      | none => .blank
    let before := shown.map fun cs => constant line (.text (String.ofList cs))
    let spec := node .joinedStr line [.list (joinLiterals values)]
    return before.toList ++ [node .formattedValue line [value, mark, spec]]
  | .broken => blameLast

/-- The pieces of a text with fields. -/
def piecesValues (raw : Bool) (line start : Nat) : List Piece → Parse (List Tree)
  | [] => return []
  | p :: rest => do
    let first ← pieceValue raw line start p
    let more ← piecesValues raw line start rest
    return first ++ more

end

def textValues (line : Nat) (t : Token) : Parse (List Tree) :=
  let w := Written.ofToken t.text
  if w.hasFields then piecesValues r w.isRaw line t.line w.pieces
  else match unescape? w.isRaw w.body with
    | some cs => return [constant line (.text (String.ofList cs))]
    | none => blameLast

def allTextValues (line : Nat) : List Token → Parse (List Tree)
  | [] => return []
  | t :: rest => do
    let first ← textValues r line t
    let more ← allTextValues line rest
    return first ++ more

def bytesOf (t : Token) : Parse (List UInt8) := do
  let w := Written.ofToken t.text
  if w.body.any (128 ≤ ·.toNat) then blame t.line
  match unescapeBytes? w.isRaw w.body with
  | some bs => return bs
  | none => blameLast

/-- Texts that follow one another are one. Those with fields are kept in pieces. -/
def texts : Parse Tree := do
  let line ← lineHere
  let tokens ← textTokens (← bound) []
  let written := tokens.map fun t => Written.ofToken t.text
  if written.any (·.isBytes) then
    let bs ← tokens.mapM fun t =>
      if (Written.ofToken t.text).isBytes then bytesOf t else blameLast
    return constant line (.bytes bs.flatten)
  else
    let values ← allTextValues r line tokens
    let isEmpty : Tree → Bool
      | .node .constant _ (.literal (.text s) :: _) => s = ""
      | _ => false
    let joined := joinLiterals (values.filter fun v => !isEmpty v)
    if written.any (·.hasFields) then return node .joinedStr line [.list joined]
    else match joined with
      | [t] => return t
      | _ => return constant line (.text "")

/-! ## Atoms -/

/-- What begins with a round bracket. -/
def rounds : Parse Tree := do
  let line ← lineHere
  skip
  if ← accept ")" then return node .tuple line [.list [], .blank]
  else if ← at? "yield" then
    let t ← yieldExpression r
    expect ")"
    return t
  else
    let first ← starNamedExpression r
    if ← atClause then
      refuseStar first
      let generators ← clauses r
      expect ")"
      return node .generatorExp line [first, generators]
    else if ← at? "," then
      let items ← moreOf "," atStarExpression (starNamedExpression r) (← bound) [first]
      expect ")"
      return node .tuple line [.list items, .blank]
    else
      expect ")"
      refuseStar first
      return first

/-- What begins with a square bracket. -/
def squares : Parse Tree := do
  let line ← lineHere
  skip
  if ← accept "]" then return node .list line [.list [], .blank]
  else
    let first ← starNamedExpression r
    if ← atClause then
      refuseStar first
      let generators ← clauses r
      expect "]"
      return node .listComp line [first, generators]
    else
      let items ← moreOf "," atStarExpression (starNamedExpression r) (← bound) [first]
      if (← diagnosing) && (← atClause) then blame (lineOf first)
      expect "]"
      return node .list line [.list items, .blank]

/-- The value of an entry after its key, from the colon on. -/
def entryValue : Parse Tree := do
  let line ← lineHere
  expect ":"
  if (← diagnosing) && (← atAny ["\x7d", ","]) then blame line
  r.expression

/-- An entry of a dictionary; without a key, what two stars unpack. -/
def entry : Parse (Tree × Tree) := do
  if ← accept "**" then
    let t ← r.bitOr
    return (.blank, t)
  else
    let key ← r.expression
    if (← diagnosing) && !(← at? ":") then blame (lineOf key)
    let value ← entryValue r
    return (key, value)

def atEntry : Parse Bool := do
  let t ← peek
  return opensExpression t || t.isWord "**"

def entriesAfter (line : Nat) (first : Tree × Tree) : Parse Tree := do
  if ← atClause then
    if first.1.isBlank then
      if ← diagnosing then blame line else fail
    let generators ← clauses r
    expect "\x7d"
    return node .dictComp line [first.1, first.2, generators]
  else
    let all ← moreOf "," atEntry (entry r) (← bound) [first]
    expect "\x7d"
    return node .dict line [.list (all.map (·.1)), .list (all.map (·.2))]

/-- What begins with a curly bracket. -/
def curlies : Parse Tree := do
  let line ← lineHere
  skip
  if ← accept "\x7d" then return node .dict line [.list [], .list []]
  else if ← at? "**" then
    let first ← entry r
    entriesAfter r line first
  else
    let named ← if ← atKind .name then nextIs ":=" else pure false
    let first ← starNamedExpression r
    if !named && first.kind? ≠ some .starred && (← at? ":") then
      let value ← entryValue r
      entriesAfter r line (first, value)
    else if ← atClause then
      refuseStar first
      let generators ← clauses r
      expect "\x7d"
      return node .setComp line [first, generators]
    else
      let items ← moreOf "," atStarExpression (starNamedExpression r) (← bound) [first]
      if (← diagnosing) && (← atClause) then blame (lineOf first)
      expect "\x7d"
      return node .set line [.list items]

/-- A keyword that stands for a value. -/
def valueWord? (t : Token) : Option Literal :=
  if t.isWord "True" then some (.bool true)
  else if t.isWord "False" then some (.bool false)
  else if t.isWord "None" then some .none
  else if t.isWord "..." then some .ellipsis
  else none

def atom : Parse Tree := do
  let t ← peek
  match t.kind with
  | .name =>
    let id ← name
    return node .name t.line [.word id, .blank]
  | .number =>
    skip
    match numberValue t.text with
    | some v => return constant t.line v
    | none => blame t.line
  | .text => texts r
  | _ =>
    match valueWord? t with
    | some v =>
      skip
      return constant t.line v
    | none =>
      if t.isWord "(" then rounds r
      else if t.isWord "[" then squares r
      else if t.isWord "\x7b" then curlies r
      else fail

/-! ## Calls, attributes and items -/

/-- Arguments read so far, lists last first. -/
structure Arguments where
  positional : List Tree := []
  keywords : List Tree := []
  /-- Whether a keyword, and whether two stars, were passed. -/
  named : Bool := false
  spread : Bool := false
  /-- The line of the first argument. -/
  line : Option Nat := none

def plainArgument : Parse Tree := do
  let t ← peek
  if t.kind = .name && (← nextIs ":=") then
    let id ← name
    skip
    let value ← r.expression
    return node .namedExpr t.line [node .name t.line [.word id, .blank], value]
  else
    let e ← r.expression
    if ← atAny ["=", ":="] then
      if ← diagnosing then blame (lineOf e) else fail
    return e

/-- One argument; `line` is the line of the opening bracket. -/
def argumentStep (line : Nat) (a : Arguments) : Parse Arguments := do
  let t ← peek
  let a := { a with line := some (a.line.getD t.line) }
  if t.isWord "**" then
    skip
    let value ← r.expression
    return { a with
      keywords := node .keyword t.line [.blank, value] :: a.keywords, named := true, spread := true }
  else if t.isWord "*" then
    if a.spread then
      if ← diagnosing then blame (a.line.getD t.line) else fail
    skip
    let value ← r.expression
    return { a with positional := node .starred t.line [value, .blank] :: a.positional }
  else if t.kind = .name && (← nextIs "=") then
    let id ← name
    skip
    let value ← r.expression
    if (← diagnosing) && (← atClause) then blame t.line
    return { a with
      keywords := node .keyword t.line [.word id, value] :: a.keywords, named := true }
  else
    if a.named && !(← diagnosing) then
      -- Positional arguments cannot follow keywords.
      let _ ← plainArgument r
      fail
    let value ← plainArgument r
    if ← atClause then
      let first := a.positional.isEmpty && a.keywords.isEmpty
      let generators ← clauses r
      if first && (← at? ")") then
        return { a with positional := [node .generatorExp line [value, generators]] }
      else if ← diagnosing then blame (lineOf value)
      else fail
    else return { a with positional := value :: a.positional }

/-- Arguments up to the closing bracket, which is passed. `misplaced` tells that a positional argument
followed a keyword. -/
def argumentsFrom (line : Nat) (misplaced : Bool) : Nat → Arguments → Parse (List Tree × List Tree)
  | 0, _ => fail
  | fuel + 1, a => do
    if ← at? ")" then
      if misplaced then blameLast
      skip
      return (a.positional.reverse, a.keywords.reverse)
    let b ← argumentStep r line a
    let starred := match b.positional with
      | t :: _ => t.kind? = some .starred
      | [] => true
    let misplaced := misplaced ||
      (a.named && a.positional.length < b.positional.length && !starred)
    if ← accept "," then argumentsFrom line misplaced fuel b
    else
      if misplaced then blameLast
      expect ")"
      return (b.positional.reverse, b.keywords.reverse)

/-- Arguments after the opening bracket of the line. -/
def arguments (line : Nat) : Parse (List Tree × List Tree) := do
  argumentsFrom r line false (← bound) {}

/-- A bound of a slice, unless there is none. -/
def sliceBound : Parse Tree := do
  if ← atExpression then r.expression else return .blank

def slice : Parse Tree := do
  let line ← lineHere
  let first ← peek
  let whole ← if first.kind = .name then nextIs ":=" else at? "*"
  let lower ← if ← at? ":" then pure Tree.blank else starNamedExpression r
  let cut ← if whole then pure false else accept ":"
  if cut then
    let upper ← sliceBound r
    let stride ← if ← accept ":" then sliceBound r else pure .blank
    return node .slice line [lower, upper, stride]
  else return lower

/-- Whether an item or a slice begins here. -/
def atSlice : Parse Bool := do
  let t ← peek
  return opensExpression t || t.isWord "*" || t.isWord ":"

/-- What stands between square brackets after an operand. -/
def slices : Parse Tree := do
  let line ← lineHere
  let items ← listOf "," atSlice (slice r)
  let comma ← justPassed ","
  match items with
  | [t] => return tupleOf line [t] (comma || t.kind? = some .starred)
  | items => return tupleOf line items true

/-- A call, an attribute or an item after an operand. -/
def tail (line : Nat) (t : Tree) : Parse Tree := do
  let here ← peek
  if here.isWord "." then
    skip
    let id ← name
    return node .attr line [t, .word id, .blank]
  else if here.isWord "(" then
    skip
    let (positional, keywords) ← arguments r here.line
    return node .call line [t, .list positional, .list keywords]
  else if here.isWord "[" then
    skip
    let inner ← slices r
    expect "]"
    return node .subscript line [t, inner, .blank]
  else fail

/-- Calls, attributes and items that follow an operand. -/
def tailsFrom (line : Nat) : Nat → Tree → Parse Tree
  | 0, t => return t
  | fuel + 1, t => do
    match ← attempt (tail r line t) with
    | some t => tailsFrom line fuel t
    | none => return t

/-- An atom with calls, attributes and items. -/
def primary : Parse Tree := do
  let line ← lineHere
  let t ← atom r
  tailsFrom r line (← bound) t

/-- A primary that may be waited for. -/
def awaited : Parse Tree := do
  let line ← lineHere
  if ← accept "await" then
    let t ← primary r
    return node .await line [t]
  else primary r

/-! ## Whole expressions -/

/-- Looks for a second expression after `t` inside brackets, where a comma was probably forgotten. -/
def diagnoseComma (t : Tree) (start : Token) (textFollows : Bool) : Parse Unit := do
  if !(← diagnosing) then return
  let soft := start.kind = .name && ["_", "case", "match"].contains start.text
  if soft || (start.kind = .name && textFollows) then return
  if !(← atExpression) then return
  let c ← get
  let second? ← plainly (attempt r.expression)
  let depth ← depthHere
  modify fun d => { d with pos := c.pos }
  let printed := t.kind? = some .name && ["print", "exec"].contains (t.field 0).text
  if second?.isSome && !printed && depth ≠ 0 then blame (lineOf t)

/-- Whether the token after the one at hand is a text. -/
def textFollows : Parse Bool := do
  let c ← get
  skip
  let found ← atKind .text
  modify fun d => { d with pos := c.pos }
  return found

def lambda : Parse Tree := do
  let line ← lineHere
  expect "lambda"
  let ps ← parameters r false ":"
  expect ":"
  let body ← r.expression
  return node .lambda line [ps, body]

/-- An expression. A condition without an `else` is left alone. -/
def expressionOf : Parse Tree := do
  let start ← peek
  if start.isWord "lambda" then lambda r
  else
    let text ← if (← diagnosing) && start.kind = .name then textFollows else pure false
    let t ← r.disjunction
    diagnoseComma r t start text
    if ← at? "if" then
      let c ← get
      skip
      match ← attempt r.disjunction with
      | none =>
        modify fun d => { d with pos := c.pos }
        return t
      | some condition =>
        if ← accept "else" then
          let otherwise ← r.expression
          return node .ifExp start.line [condition, t, otherwise]
        else
          if (← diagnosing) && !(← at? ":") then blame (lineOf t)
          modify fun d => { d with pos := c.pos }
          return t
    else return t

end Parse
end Userscript.Syntax
