import Userscript.Text.Pieces

/-!
# Userscript.Page.Style

Style sheets that scripts add to a page, one element each.
-/

namespace Userscript.Page

structure Style where
  /-- Numbers grow in the order of adding. -/
  number : Nat
  /-- The script that added it. -/
  owner : Option Int
  css : String
deriving DecidableEq

namespace Style

/-- What begins a closing tag, and what stands for it in a style sheet, so that a style sheet does not close its
own element. -/
def guardedMark : String × String := ("</", "<\\/")

/-- A style sheet that does not close its element. -/
def guarded (css : String) : String := Text.replaceAll guardedMark.1 guardedMark.2 css

/-- A style element, given the texts of its number and of a guarded style sheet. -/
def element (number css : String) : String :=
  "<style data-usm-node=\"" ++ number ++ "\">" ++ css ++ "</style>"

def render (s : Style) : String := element (toString s.number) (guarded s.css)

end Style
end Userscript.Page
