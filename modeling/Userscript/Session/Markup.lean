import Userscript.Session.Batch

/-!
# Userscript.Session.Markup

The page as markup: its source with styles and badge put in.

Each style is asked for its element, in order. What it answers is up to the scripts, which hold the node of a style
and may change it; there is markup only if every answer is a text.

* `Session.element` asks one style, `Session.elements` asks all, those that are added meanwhile included;
* `Session.render` puts the elements and the badge into markup.
-/

namespace Userscript

open Machine

namespace Session

variable {σ : Type}

/-- Runs steps of the machine that nobody asked for as an author. -/
def unowned : Author := ⟨none, Program.label none "", { owner := .none, origin := "" }⟩

def styler (set : Setting σ) (x : Page.Style) (s : Session σ) : Author :=
  let name := ((s.outcomes.find? (·.id = x.owner)).map (·.name)).getD ""
  authorOf set (s.document.origin.toOption.getD "") { id := x.owner, name }

/-- The element of a style, as its node in memory gives it. -/
def element (x : Page.Style) : Act Value := do
  match (← Act.look (·.styles)).lookup x.number with
  | some r =>
    let render ← Attribute.get (.ref r) "render"
    calls.call render [] []
  | none => return .str x.render

/-- The element of a style; an error that would look like the end of all styles is made another one. -/
def asked (x : Page.Style) : Act Value :=
  Act.recover (element x) fun
    | .ok v => return v
    | .error (.raised e) => do
      if (← Act.look (·.typeName e)) = "StopIteration" then
        Act.raise "RuntimeError" "generator raised StopIteration"
      else Act.fail (.raised e)
    | .error t => Act.fail t

/-- Goes on with a result; trouble stays what it is. -/
def andThen {α β : Type} (work : Except Trouble α × Session σ)
    (next : α → Session σ → Except Trouble β × Session σ) : Except Trouble β × Session σ :=
  match work with
  | (.ok a, s) => next a s
  | (.error t, s) => (.error t, s)

/-- The elements of the styles from the `i`-th on. -/
def elementsFrom (set : Setting σ) : Nat → Nat → Session σ → Except Trouble (List Value) × Session σ
  | 0, _, s => (.error .endless, s)
  | fuel + 1, i, s =>
    match s.document.styles[i]? with
    | none => (.ok [], s)
    | some x =>
      andThen (s.act set (s.styler set x) (asked x)) fun v s =>
        andThen (elementsFrom set fuel (i + 1) s) fun vs s => (.ok (v :: vs), s)

def elements (set : Setting σ) (s : Session σ) : Except Trouble (List Value) × Session σ :=
  s.elementsFrom set (turns + s.document.styles.length) 0

/-- The elements of all styles as texts; one that is no text is an error. -/
def elementTexts (set : Setting σ) (s : Session σ) : Except Trouble (List String) × Session σ :=
  andThen (s.elements set) fun vs s =>
    andThen (s.act set unowned (Method.joinable 0 vs)) fun pieces s => (.ok (pieces.map String.ofList), s)

/-- Markup with the styles of the page, as scripts left them, and the badge. -/
def render (set : Setting σ) (html : String) (s : Session σ) : Except Trouble String × Session σ :=
  andThen (s.elementTexts set) fun texts s =>
    (.ok (Page.Document.renderWith texts s.document.indicator html), s)

end Session
end Userscript
