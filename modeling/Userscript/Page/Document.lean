import Userscript.Page.Indicator
import Userscript.Page.Style
import Userscript.Url.Authority

/-!
# Userscript.Page.Document

One page: its URL, how far it is loaded, what listens to its events, the styles that scripts added, and the
badge.

* `Document.toParsed` and `Document.toLoaded` are the milestones that a page has still to pass when its source
  is read, or all that belongs to it is loaded;
* `pass` takes a page through milestones, and calls what listens;
* `Document.render` puts styles and badge into markup.
-/

namespace Userscript.Page

inductive ReadyState where
  | loading | interactive | complete
  /-- Any other word, which stands for no step on the way. -/
  | other (word : String)
deriving DecidableEq

namespace ReadyState

def name : ReadyState → String
  | .loading => "loading"
  | .interactive => "interactive"
  | .complete => "complete"
  | .other word => word

def ofName (word : String) : ReadyState :=
  ([loading, interactive, complete].find? (·.name = word)).getD (.other word)

end ReadyState

/-- The event when the source of a page is read. -/
def parsedEvent : String := "DOMContentLoaded"

/-- The event when all that belongs to a page is loaded. -/
def loadedEvent : String := "load"

/-- A state that a page reaches, and the event that tells of it. -/
structure Milestone where
  state : ReadyState
  event : String

namespace Milestone

def parsed : Milestone := ⟨.interactive, parsedEvent⟩

def loaded : Milestone := ⟨.complete, loadedEvent⟩

end Milestone

/-- A page, with listeners of a kind. -/
structure Document (ℓ : Type) where
  url : String
  state : ReadyState := .loading
  styles : List Style := []
  /-- The number of the next style. -/
  nextStyle : Nat := 1
  indicator : Indicator := {}
  /-- What listens, and to which event, in the order of adding. -/
  listeners : List (String × ℓ) := []

namespace Document

variable {ℓ : Type}

def origin (d : Document ℓ) : Except Fault String := Url.origin d.url

def addStyle (d : Document ℓ) (css : String) (owner : Option Int) : Document ℓ :=
  { d with styles := d.styles ++ [⟨d.nextStyle, owner, css⟩], nextStyle := d.nextStyle + 1 }

def listen (d : Document ℓ) (event : String) (listener : ℓ) : Document ℓ :=
  { d with listeners := d.listeners ++ [(event, listener)] }

def heard (d : Document ℓ) (event : String) : List ℓ :=
  (d.listeners.filter (·.1 = event)).map (·.2)

/-- The milestones to pass when the source of the page is read. -/
def toParsed (d : Document ℓ) : List Milestone :=
  if d.state = .loading then [.parsed] else []

/-- The milestones to pass when all is loaded. -/
def toLoaded (d : Document ℓ) : List Milestone :=
  if d.state = .complete then [] else d.toParsed ++ [.loaded]

/-! ## Markup -/

/-- Where styles go: before the end of the head, or to the start. -/
def stylePlace (html : List Char) : Nat := (closing? "head" html).getD 0

/-- Where the badge goes: before the end of the body or of the whole, or to the end. -/
def badgePlace (html : List Char) : Nat :=
  ((closing? "body" html) <|> (closing? "html" html)).getD html.length

/-- Markup with a fragment put in, unless that is empty. -/
def inserted (place : List Char → Nat) (fragment : String) (html : List Char) : List Char :=
  if fragment = "" then html else insertAt (place html) fragment.toList html

/-- Markup with style elements and the badge. -/
def renderWith (styles : List String) (indicator : Indicator) (html : String) : String :=
  String.ofList (inserted badgePlace indicator.render
    (inserted stylePlace (String.join styles) html.toList))

/-- Markup with the styles and the badge of the page. -/
def render (d : Document ℓ) (html : String) : String :=
  renderWith (d.styles.map Style.render) d.indicator html

end Document

/-- Takes a page, which is part of a state, through milestones; what listens to an event when it comes is called
in order. -/
def pass {σ ℓ : Type} (page : σ → Document ℓ) (turn : Document ℓ → σ → σ) (call : String → ℓ → σ → σ) :
    List Milestone → σ → σ
  | [], s => s
  | m :: rest, s =>
    let s := turn { page s with state := m.state } s
    pass page turn call rest (((page s).heard m.event).foldl (fun s l => call m.event l s) s)

end Userscript.Page
