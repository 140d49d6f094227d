import Userscript.Syntax.Parse.Expression

/-!
# Userscript.Syntax.Parse.Pattern

The patterns of match statements: literals, names to capture, values, sequences, mappings, classes,
alternatives, and names for what a pattern matched.

The parsers here take the parser of patterns as a parameter, as `Rules` does for expressions.
-/

namespace Userscript.Syntax.Parse

variable (r : Rules) (pattern : Parse Tree)

/-- A number, perhaps with a sign. -/
def signedNumber : Parse Tree := do
  let line ← lineHere
  let negative ← accept "-"
  let t ← peek
  if t.kind ≠ .number then fail
  skip
  match numberValue t.text with
  | none => blame t.line
  | some v =>
    let n := constant t.line v
    return if negative then node .unaryOp line [.word "-", n] else n

def isImaginary : Tree → Bool
  | .node .constant _ (.literal (.imaginary _) :: _) => true
  | _ => false

/-- Whether a number, apart from its sign, is imaginary. -/
def isImaginaryPart (t : Tree) : Bool :=
  isImaginary t || (t.kind? = some .unaryOp && isImaginary (t.field 1))

/-- A number, or the sum of a real and an imaginary one. -/
def numberPattern : Parse Tree := do
  let line ← lineHere
  let first ← signedNumber
  let t ← peek
  if t.isWord "+" || t.isWord "-" then
    if isImaginaryPart first then blame line
    skip
    let second ← peek
    if second.kind ≠ .number then fail
    skip
    match numberValue second.text with
    | some (.imaginary x) =>
      return node .binOp line [first, .word t.text, constant second.line (.imaginary x)]
    | _ => blame second.line
  else return first

def dottedFrom (line : Nat) : Nat → Tree → Parse Tree
  | 0, t => return t
  | fuel + 1, t => do
    if ← accept "." then
      let id ← name
      dottedFrom line fuel (node .attr line [t, .word id, .blank])
    else return t

def dotted : Parse Tree := do
  let t ← peek
  let id ← name
  dottedFrom t.line (← bound) (node .name t.line [.word id, .blank])

def captureName : Parse String := do
  let t ← peek
  if t.kind = .name && t.text = "_" then fail
  let id ← name
  if ← atAny [".", "(", "="] then fail else return id

/-- A pattern in a sequence, or a star and a name for the rest. -/
def maybeStar : Parse Tree := do
  let line ← lineHere
  if ← accept "*" then
    let t ← peek
    if t.kind = .name && t.text = "_" then
      skip
      return node .matchStar line [.blank]
    else
      let id ← captureName
      return node .matchStar line [.word id]
  else pattern

/-- Whether a pattern begins here, perhaps with a star. -/
def atPattern : Parse Bool := do
  let t ← peek
  return t.kind = .name || t.kind = .number || t.kind = .text ||
    ["True", "False", "None", "-", "(", "[", "\x7b", "*"].any t.isWord

/-- Patterns up to a closing bracket. -/
def sequenceItems : Parse (List Tree) := do
  if ← atPattern then listOf "," atPattern (maybeStar pattern) else return []

def mappingKey : Parse Tree := do
  let t ← peek
  match t.kind with
  | .number => numberPattern
  | .text => texts r
  | .name =>
    let key ← dotted
    if key.kind? = some .attr then return key else fail
  | _ =>
    if t.isWord "-" then numberPattern
    else match valueWord? t with
      | some .ellipsis => fail
      | some v =>
        skip
        return constant t.line v
      | none => fail

/-- The entries of a mapping pattern read so far, last first. -/
structure Mapping where
  keys : List Tree := []
  patterns : List Tree := []
  rest : Tree := .blank

/-- Entries of a mapping pattern up to the closing bracket, which is passed. -/
def mappingFrom (line : Nat) : Nat → Mapping → Parse Tree
  | 0, _ => fail
  | fuel + 1, m => do
    let done : Parse Tree := do
      expect "\x7d"
      return node .matchMapping line [.list m.keys.reverse, .list m.patterns.reverse, m.rest]
    if ← at? "\x7d" then done
    else if !m.rest.isBlank then fail
    else
      let m ← if ← accept "**" then
          let id ← captureName
          pure { m with rest := Tree.word id }
        else
          let key ← mappingKey r
          expect ":"
          let value ← pattern
          pure { m with keys := key :: m.keys, patterns := value :: m.patterns }
      if ← accept "," then mappingFrom line fuel m
      else
        expect "\x7d"
        return node .matchMapping line [.list m.keys.reverse, .list m.patterns.reverse, m.rest]

/-- The arguments of a class pattern read so far, last first. -/
structure ClassParts where
  patterns : List Tree := []
  names : List Tree := []
  values : List Tree := []

/-- Arguments of a class pattern up to the closing bracket, which is passed. -/
def classFrom (line : Nat) (cls : Tree) : Nat → ClassParts → Parse Tree
  | 0, _ => fail
  | fuel + 1, p => do
    if ← accept ")" then
      return node .matchClass line
        [cls, .list p.patterns.reverse, .list p.names.reverse, .list p.values.reverse]
    else
      let t ← peek
      let p ← if t.kind = .name && (← nextIs "=") then
          let id ← name
          skip
          let value ← pattern
          pure { p with names := .word id :: p.names, values := value :: p.values }
        else if !p.names.isEmpty then do
          let value ← pattern
          if ← diagnosing then blame (lineOf value) else fail
        else
          let value ← pattern
          pure { p with patterns := value :: p.patterns }
      if !(← accept ",") then
        if !(← at? ")") then fail
      classFrom line cls fuel p

/-- A name: what it captures, the value that it stands for, or a class. -/
def namePattern : Parse Tree := do
  let t ← peek
  let head ← dotted
  if ← accept "(" then classFrom pattern t.line head (← bound) {}
  else if ← at? "=" then fail
  else match head with
    | .node .name _ (.word id :: _) =>
      if t.text = "_" then return node .matchAs t.line [.blank, .blank]
      else return node .matchAs t.line [.blank, .word id]
    | head => return node .matchValue t.line [head]

def closedPattern : Parse Tree := do
  let t ← peek
  match t.kind with
  | .name => namePattern pattern
  | .number =>
    let n ← numberPattern
    return node .matchValue t.line [n]
  | .text =>
    let s ← texts r
    return node .matchValue t.line [s]
  | _ =>
    if t.isWord "-" then
      let n ← numberPattern
      return node .matchValue t.line [n]
    else if t.isWord "[" then
      skip
      let items ← sequenceItems pattern
      expect "]"
      return node .matchSequence t.line [.list items]
    else if t.isWord "(" then
      skip
      let items ← sequenceItems pattern
      let comma ← justPassed ","
      expect ")"
      match items with
      | [p] =>
        if comma then return node .matchSequence t.line [.list items]
        else if p.kind? = some .matchStar then fail
        else return p
      | items => return node .matchSequence t.line [.list items]
    else if t.isWord "\x7b" then
      skip
      mappingFrom r pattern t.line (← bound) {}
    else match valueWord? t with
      | some .ellipsis => fail
      | some v =>
        skip
        return node .matchSingleton t.line [.literal v]
      | none => fail

/-- Alternatives, and a name for what was matched. -/
def patternOf : Parse Tree := do
  let line ← lineHere
  let first ← closedPattern r pattern
  let all ← operandsFrom "|" (closedPattern r pattern) (← bound) [first]
  let p := match all with
    | [p] => p
    | all => node .matchOr line [.list all]
  if ← accept "as" then
    let t ← peek
    if t.kind = .name && t.text = "_" then blame t.line
    let id ← captureName
    return node .matchAs line [p, .word id]
  else return p

/-- The pattern of a case: one, or several without brackets. -/
def casePattern : Parse Tree := do
  let line ← lineHere
  let items ← listOf "," atPattern (maybeStar pattern)
  match items with
  | [p] =>
    if ← justPassed "," then return node .matchSequence line [.list items]
    else if p.kind? = some .matchStar then fail
    else return p
  | items => return node .matchSequence line [.list items]

end Userscript.Syntax.Parse
