import Userscript.Syntax.Token
import Userscript.Syntax.Tree
import Userscript.Text.Compatibility

/-!
# Userscript.Syntax.Parse

Parsers over the tokens of a script.

A parser that does not fit leaves a mishap. `Mishap.mismatch` blames the last token that any parser
looked at, which is why that place is part of the state and is kept when a parser goes back to try
something else. `Mishap.at` blames a line of its own, and nothing else is tried.

A source that does not fit is read once more with `diagnose` set; parsers then look for mistakes that
they can name, and blame the line of those.
-/

namespace Userscript.Syntax

/-- Why a parser does not fit. -/
inductive Mishap where
  | mismatch
  | at (line : Nat)
deriving DecidableEq

/-- What a parser reads. -/
structure Input where
  tokens : Array Token
  diagnose : Bool

/-- Where a parser is, and how many tokens were looked at. -/
structure Cursor where
  pos : Nat := 0
  seen : Nat := 0

abbrev Parse := ReaderT Input (ExceptT Mishap (StateM Cursor))

namespace Parse

def fail {α : Type} : Parse α := throw .mismatch

def blame {α : Type} (line : Nat) : Parse α := throw (.at line)

def peek : Parse Token := do
  let c ← get
  set { c with seen := max c.seen (c.pos + 1) }
  let t := (← read).tokens.getD c.pos default
  if t.kind = .stopped then blame t.line else return t

def lineHere : Parse Nat := do return (← peek).line

def skip : Parse Unit := modify fun c => { c with pos := c.pos + 1 }

/-- How many brackets are open before the token at hand. -/
def depthHere : Parse Nat := do
  return ((← read).tokens.getD ((← get).pos - 1) default).depth

def lastLine : Parse Nat := do
  return ((← read).tokens.getD ((← get).seen - 1) default).line

/-- Blames the last token that was looked at. -/
def blameLast {α : Type} : Parse α := do blame (← lastLine)

def diagnosing : Parse Bool := do return (← read).diagnose

/-- A bound on how often anything can be repeated. -/
def bound : Parse Nat := do return (← read).tokens.size + 1

def at? (w : String) : Parse Bool := do return (← peek).isWord w

/-- Whether the token at hand is one of the operators or keywords. -/
def atAny (ws : List String) : Parse Bool := do
  let t ← peek
  return ws.any t.isWord

/-- Passes the operator or keyword if it is at hand. -/
def accept (w : String) : Parse Bool := do
  if ← at? w then
    skip
    return true
  else return false

/-- Passes the operator or keyword, which has to be at hand. -/
def expect (w : String) : Parse Unit := do
  if ← at? w then skip else fail

def atKind (kind : TokenKind) : Parse Bool := do return (← peek).kind = kind

/-- Passes a token of the kind, which has to be at hand. -/
def expectKind (kind : TokenKind) : Parse Unit := do
  if ← atKind kind then skip else fail

/-- Whether the token after the one at hand is the operator or keyword. -/
def nextIs (w : String) : Parse Bool := do
  let c ← get
  skip
  let found ← at? w
  modify fun d => { d with pos := c.pos }
  return found

/-- Tries a parser, and goes back if it does not fit. -/
def attempt {α : Type} (p : Parse α) : Parse (Option α) := do
  let c ← get
  tryCatch (some <$> p) fun
    | .mismatch => do
      modify fun d => { d with pos := c.pos }
      return none
    | m => throw m

/-- What a parser makes of `t`; if it does not fit, it goes back and leaves `t` as it is. -/
def further {α : Type} (t : α) (p : Parse α) : Parse α := do return (← attempt p).getD t

/-- A parser without looking for mistakes. -/
def plainly {α : Type} (p : Parse α) : Parse α :=
  fun input => p { input with diagnose := false }

/-- A name as it is compared: in compatibility form. -/
def nameOf (t : Token) : String :=
  if t.text.toList.all (·.toNat < 128) then t.text else Text.compatible t.text

def name : Parse String := do
  let t ← peek
  if t.kind = .name then
    skip
    return nameOf t
  else fail

/-- A node that starts on a line. -/
def node (kind : Kind) (line : Nat) (fields : List Tree) : Tree := .node kind (some line) fields

def bare (kind : Kind) (fields : List Tree) : Tree := .node kind none fields

def lineOf (t : Tree) : Nat := (t.line?.getD 0).toNat

/-- Items until one does not begin, each after a separator but the first. -/
def moreOf {α : Type} (separator : String) (begins : Parse Bool) (item : Parse α) :
    Nat → List α → Parse (List α)
  | 0, items => return items.reverse
  | fuel + 1, items => do
    if ← at? separator then
      skip
      if ← begins then
        let v ← item
        moreOf separator begins item fuel (v :: items)
      else return items.reverse
    else return items.reverse

/-- Items with separators between them and perhaps one after the last. -/
def listOf {α : Type} (separator : String) (begins : Parse Bool) (item : Parse α) :
    Parse (List α) := do
  let first ← item
  moreOf separator begins item (← bound) [first]

/-- Whether the token before the one at hand is the operator. -/
def justPassed (w : String) : Parse Bool := do
  return ((← read).tokens.getD ((← get).pos - 1) default).isWord w

end Parse
end Userscript.Syntax
