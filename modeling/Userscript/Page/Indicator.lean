import Userscript.Page.Markup

/-!
# Userscript.Page.Indicator

The badge on a page that counts successful runs.

Nothing is shown before the first success. A click dismisses the badge, and then it stays hidden, however many
scripts succeed later.
-/

namespace Userscript.Page

/-- How the badge looks, and whether it is used at all. -/
structure Badge where
  enabled : Bool := true
  label : String := "MiniUSM"
  elementId : String := "miniUSM-badge"
deriving DecidableEq

structure Indicator where
  badge : Badge := {}
  count : Int := 0
  created : Bool := false
  dismissed : Bool := false
deriving DecidableEq

namespace Indicator

/-- Whether the badge is on the page. -/
def visible (i : Indicator) : Bool := i.badge.enabled && i.created && !i.dismissed

def text (i : Indicator) : String := i.badge.label ++ ": " ++ toString i.count

/-- Shows a count; one that is not positive changes nothing. -/
def update (i : Indicator) (count : Int) : Indicator :=
  if count ≤ 0 then i else { i with count, created := true }

/-- Hides the badge for good. -/
def dismiss (i : Indicator) : Indicator := { i with dismissed := true }

/-- The looks of the badge: small, half transparent, at the lower right. -/
def looks : String :=
  "position:fixed;z-index:2147483647;bottom:8px;right:8px;" ++
  "padding:2px 6px;border-radius:999px;font-size:10px;" ++
  "font-family:system-ui,-apple-system,'Segoe UI',sans-serif;" ++
  "background:rgba(15,23,42,0.85);color:#e5e7eb;" ++
  "box-shadow:0 2px 6px rgba(0,0,0,0.35);cursor:pointer;opacity:0.7;"

/-- The badge in markup; empty if it is not on the page. -/
def render (i : Indicator) : String :=
  if i.visible then
    "<div id=\"" ++ escape i.badge.elementId ++ "\" style=\"" ++ looks ++ "\" title=\"" ++
      escape (i.badge.label ++ " - click to hide this badge") ++
      "\" onclick=\"this.style.display='none'\">" ++ escape i.text ++ "</div>"
  else ""

end Indicator
end Userscript.Page
