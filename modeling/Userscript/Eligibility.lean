import Userscript.Catalog.Script
import Userscript.Glob.Matcher

/-!
# Userscript.Eligibility

Whether a URL is in scope for a script, and why.

1. A script without match and include patterns is in scope everywhere.
2. Otherwise a match pattern that hits brings the URL in scope, else an include pattern that hits.
3. What is in scope is taken out again by an exclude pattern that hits.

Patterns are tried in order, and the first that hits is the one told.
-/

namespace Userscript

/-- The patterns of a script as they were given. -/
structure Scope where
  matchPatterns : Json := .null
  includePatterns : Json := .null
  excludePatterns : Json := .null

def Script.scope (s : Script) : Scope :=
  ⟨Script.ofTexts s.matchPatterns, Script.ofTexts s.includePatterns, Script.ofTexts s.excludePatterns⟩

namespace Eligibility

open Glob

/-- Why a URL is in scope or not. -/
inductive Reason where
  | matchAll
  | matched
  | included
  | excluded
  | unmatched
deriving DecidableEq

def Reason.name : Reason → String
  | matchAll => "match-all"
  | matched => "matched"
  | included => "included"
  | excluded => "excluded"
  | unmatched => "unmatched"

/-- A decision, with the pattern that it rests on, if any. -/
structure Decision where
  eligible : Bool
  reason : Reason
  pattern : Option Json := none

/-- The first of the patterns that hits. -/
def firstHitOf (url : Json) : List Json → Matching (Option Json)
  | [] => return none
  | p :: rest => do
    if ← hitsM url p then return some p else firstHitOf url rest

/-- The first hit among patterns as given; what counts as absent has none. -/
def firstHit (url patterns : Json) : Matching (Option Json) := do
  if patterns.truthy then
    firstHitOf url (← patterns.items)
  else return none

/-- What brings a URL in scope, if anything. -/
def admission (url : Json) (s : Scope) : Matching (Option Decision) := do
  if !s.matchPatterns.truthy && !s.includePatterns.truthy then return some ⟨true, .matchAll, none⟩
  match ← firstHit url s.matchPatterns with
  | some p => return some ⟨true, .matched, some p⟩
  | none =>
    match ← firstHit url s.includePatterns with
    | some p => return some ⟨true, .included, some p⟩
    | none => return none

def evaluate (url : Json) (s : Scope) : Matching Decision := do
  match ← admission url s with
  | none => return ⟨false, .unmatched, none⟩
  | some decision =>
    match ← firstHit url s.excludePatterns with
    | some p => return ⟨false, .excluded, some p⟩
    | none => return decision

end Eligibility
end Userscript
