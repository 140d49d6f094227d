import Userscript.Datum
import Userscript.Fault
import Userscript.Glob
import Userscript.Log
import Userscript.Text.Blank

/-!
# Userscript.Glob.Matcher

Patterns compiled under limits, with the results kept.

A pattern that breaks a limit compiles to one that never matches, and the log says so once for every
time that the pattern enters the cache. The cache holds the most recently used patterns, most recent
first; `Matcher.compile` is its only way in.

Patterns and texts come from data that need not be text. A pattern that is a number, a truth value or
null compiles to one that never matches; a list or an object is refused as soon as it has to be
looked up.
-/

namespace Userscript.Glob

/-- The limits on patterns and on how many are kept; without a cache size all are. -/
structure Limits where
  maxLength : Int := 2048
  maxStars : Int := 64
  cacheSize : Option Int := some 1024
deriving DecidableEq

inductive Rejection where
  | notText
  | tooLong (limit : Int)
  | tooManyStars (count : Nat) (limit : Int)
deriving DecidableEq

def Rejection.message : Rejection → String
  | .notText => "pattern is not a string"
  | .tooLong limit => s!"longer than {limit} characters"
  | .tooManyStars count limit => s!"{count} wildcards (limit {limit})"

/-- A compiled pattern: its pieces, or why it never matches. -/
abbrev Compiled := Except Rejection (List (List Char))

/-- Whether a compiled pattern can match at all. -/
def Compiled.valid : Compiled → Bool
  | .ok _ => true
  | .error _ => false

/-- What tells patterns apart in the cache. Truth values count as the numbers one and zero there, and
an integer is a key of its own. -/
inductive Key where
  | text (s : String)
  | int (n : Int)
  | num (x : Binary64)
  | null
deriving DecidableEq

/-- The key of a pattern; lists and objects have none. -/
def Key.ofJson? : Json → Option Key
  | .str s => some (.text s)
  | .int n => some (.int n)
  | .bool b => some (.num (Binary64.ofRatio false (if b then 1 else 0) 1))
  | .num x => some (.num (if x.isZero then .zero false else x))
  | .null => some .null
  | .arr _ => none
  | .obj _ => none

def compileNew (limits : Limits) : Json → Compiled
  | .str s =>
    let cs := s.toList
    let stars := cs.count '*'
    if (cs.length : Int) > limits.maxLength then .error (.tooLong limits.maxLength)
    else if (stars : Int) > limits.maxStars then .error (.tooManyStars stars limits.maxStars)
    else .ok (pieces cs)
  | _ => .error .notText

/-- The pattern as the log names it: a pattern that is too long is cut. -/
def patternName (pattern : Json) : Rejection → String
  | .tooLong _ => String.ofList (pattern.display.toList.take 64) ++ "..."
  | .notText => pattern.shown
  | .tooManyStars .. => pattern.display

/-- What the log says of a newly compiled pattern. -/
def compileLog (pattern : Json) : Compiled → Log
  | .ok _ => []
  | .error r =>
    [.warn ("[Pattern] Bad pattern " ++ Text.quote (patternName pattern r) ++ ": " ++ r.message)]

/-- A matcher: limits, and the patterns kept, most recently used first. -/
structure Matcher where
  limits : Limits
  cache : List (Key × Compiled) := []

namespace Matcher

def new (limits : Limits) : Matcher := ⟨limits, []⟩

def clear (m : Matcher) : Matcher := new m.limits

/-- The cache cut down to its size. -/
def evict (size : Option Int) (cache : List (Key × Compiled)) : List (Key × Compiled) :=
  match size with
  | none => cache
  | some n => cache.take n.toNat

/-- The pattern kept under a key. -/
def kept? (key : Key) (cache : List (Key × Compiled)) : Option Compiled :=
  (cache.find? (·.1 = key)).map (·.2)

/-- Compiles a pattern, or takes it from the cache; either way it is now the most recent one. A
matcher that keeps nothing needs no key. -/
def compile (m : Matcher) (pattern : Json) : Except Fault (Compiled × Matcher × Log) :=
  let fresh := compileNew m.limits pattern
  let said := compileLog pattern fresh
  if m.limits.cacheSize.any (· ≤ 0) then .ok (fresh, m, said)
  else match Key.ofJson? pattern with
    | none => .error .wrongKind
    | some key =>
      match kept? key m.cache with
      | some c =>
        .ok (c, { m with cache := (key, c) :: m.cache.filter (·.1 ≠ key) }, [])
      | none =>
        .ok (fresh, { m with cache := evict m.limits.cacheSize ((key, fresh) :: m.cache) }, said)

end Matcher

/-- Whether a compiled pattern matches a value. A text is matched; of other values only the size is
looked at before the match is refused, and a pattern without stars equals none of them. -/
def Compiled.hits : Compiled → Json → Except Fault Bool
  | .error _, _ => .ok false
  | .ok ps, .str s => .ok (Glob.hits ps s.toList)
  | .ok [_], _ => .ok false
  | .ok ps, value =>
    let sized (n : Nat) : Except Fault Bool :=
      if n < (ps.headD []).length + (ps.getLastD []).length then .ok false else .error .lacking
    match value with
    | .arr items => sized items.length
    | .obj fields => sized fields.length
    | _ => .error .wrongKind

/-- Work with a matcher that writes to the log and may be refused; what was compiled and written
before stays. -/
abbrev Matching := ExceptT Fault (StateM (Matcher × Log))

/-- Compiles a pattern with the matcher at hand. -/
def compileM (pattern : Json) : Matching Compiled := do
  let (m, log) ← get
  match m.compile pattern with
  | .error e => throw e
  | .ok (c, m, said) =>
    set (m, log ++ said)
    return c

/-- Whether a pattern, trimmed, matches. -/
def hitsM (url pattern : Json) : Matching Bool :=
  match pattern with
  | .str s => do
    let c ← compileM (.str (Text.trim s))
    c.hits url
  | _ => throw .lacking

end Userscript.Glob
