import Userscript.Fault
import Userscript.Json.Value
import Userscript.Syntax.Check
import Userscript.Syntax.Parse.Statement
import Userscript.Syntax.Token.Scan

/-!
# Userscript.Syntax.Source

The syntax tree of a source, and the line to blame if it has none.

* `treeOf` parses a source;
* `validated` parses a source and refuses what scripts may not use.

The parsers of expressions, patterns and statements call one another through `fuel`, which is more than
a source has characters, as deep as they can nest.
-/

namespace Userscript.Syntax

open Parse

/-- Which line is to blame, given the line that a parser blames and the last one that it looked at: a
bracket that is still open where cutting stopped, if it was opened before that. -/
def blamed (ts : Tokens) (line last : Nat) : Nat :=
  match ts.stop, ts.openLines with
  | .complete, _ => line
  | _, [] => line
  | _, opened :: _ => if opened < last then opened else line

/-- The line of the last token that a parser looked at. -/
def lastSeen (ts : Tokens) (c : Cursor) : Nat := (ts.all.getD (c.seen - 1) default).line

/-- Whether a parser went as far as the place where cutting stopped. -/
def reachedStop (ts : Tokens) (c : Cursor) : Bool := ts.all.size ≤ c.seen

/-- Whether the last token that a parser looked at opens or closes a block. -/
def endsAtBlock (ts : Tokens) (c : Cursor) : Bool :=
  let kind := (ts.all.getD (c.seen - 1) default).kind
  kind = .indent || kind = .dedent

/-- Runs a parser, and once more with diagnosis if it does not fit; gives the line to blame then. A fault
of the cutting counts in any case, unless the parser stops where a block opens or closes. -/
def runTwice (p : Parse Tree) (ts : Tokens) : Except Nat Tree :=
  let settled (line : Nat) (c : Cursor) : Except Nat Tree :=
    match ts.stop with
    | .broken line => .error line
    | _ => .error (if reachedStop ts c then line else blamed ts line (lastSeen ts c))
  match (p ⟨ts.all, false⟩).run.run {} with
  | (.ok t, _) => .ok t
  | (.error (.at line), c) => settled line c
  | (.error .mismatch, c) =>
    match (p ⟨ts.all, true⟩).run.run {} with
    | (.error (.at line), d) => settled line d
    | (_, d) => if endsAtBlock ts c then .error (lastSeen ts d) else settled (lastSeen ts c) d

mutual

def expression : Nat → Parse Tree
  | 0 => fail
  | n + 1 => expressionOf ⟨expression n, disjunction n, bitOr n, factor n, embedded n⟩

def disjunction : Nat → Parse Tree
  | 0 => fail
  | n + 1 => disjunctionOf (bitOr n)

/-- The levels of binary operators. -/
def bitOr : Nat → Parse Tree
  | 0 => fail
  | n + 1 => bitOrOf (factor n)

/-- Signs before an operand. -/
def factor : Nat → Parse Tree
  | 0 => fail
  | n + 1 => factorOf (powerOf
      (awaited ⟨expression n, disjunction n, bitOr n, factor n, embedded n⟩) (factor n))

/-- The expression of a field of a text. -/
def embedded : Nat → Nat → List Char → Parse Tree
  | 0, _, _ => fail
  | n + 1, line, source =>
    match runTwice
      (starExpressions ⟨expression n, disjunction n, bitOr n, factor n, embedded n⟩)
      (tokensFrom line source) with
    | .ok t => return t
    | .error line => blame line

end

/-- The parsers for the parts of an expression. -/
def rules (n : Nat) : Rules := ⟨expression n, disjunction n, bitOr n, factor n, embedded n⟩

def pattern : Nat → Parse Tree
  | 0 => fail
  | n + 1 => patternOf (rules n) (pattern n)

/-- A statement, or the simple statements of a line. -/
def statement : Nat → Parse (List Tree)
  | 0 => fail
  | n + 1 => statementOf (rules n) (pattern n) (statement n)

/-- A whole source. -/
def module (n : Nat) : Parse Tree := do
  let body ← statementsFrom (statement n) (← bound) #[]
  expectKind .finish
  return bare .module [.list body, .list []]

/-- The syntax tree of a source, or the line to blame. -/
def treeOf (source : String) : Except Nat Tree :=
  let cs := source.toList
  runTwice (module (8 * cs.length + 64)) (tokensFrom 1 cs)

/-- What is wrong with a source that does not parse. -/
def syntaxFault (line : Nat) : Fault := .unsafeScript "invalid syntax: not understood" (some line)

/-- What is wrong with a source that has a null character. -/
def nullFault : Fault := .badValue "source code string cannot contain null bytes"

/-- The syntax tree of a source that scripts may have. -/
def validated (source : String) : Except Fault Tree :=
  if source.toList.contains (Char.ofNat 0) then .error nullFault
  else match treeOf source with
    | .error line => .error (syntaxFault line)
    | .ok t => (check t).map fun _ => t

/-- The syntax tree of a source as given, which has to be text. -/
def validatedGiven : Json → Except Fault Tree
  | .str s => validated s
  | _ => .error .wrongKind

end Userscript.Syntax
