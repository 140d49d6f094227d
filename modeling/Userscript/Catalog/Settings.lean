import Userscript.Datum
import Userscript.Fault
import Userscript.Text.Blank
import Userscript.Text.Case

/-!
# Userscript.Catalog.Settings

The user's switches: safe mode, the hosts on which scripts are paused, and the theme.
-/

namespace Userscript

/-- The user's switches. -/
structure Settings where
  safeMode : Bool := false
  pausedHosts : List String := []
  theme : Json := .str "system"
deriving Inhabited

namespace Settings

/-- Settings from stored data. What is missing has its default; hosts count only as a list. -/
def ofJson (v : Json) : Except Fault Settings :=
  if !v.truthy then .ok {}
  else match v with
    | .obj fields =>
      .ok {
        safeMode := (Json.field "safeMode" fields).truthy
        pausedHosts := match Json.field "scriptDisabledHosts" fields with
          | .arr items => items.map Json.display
          | _ => []
        theme := (Json.field "themeMode" fields).orElse (.str "system") }
    | _ => .error .lacking

def toJson (s : Settings) : Json :=
  .obj [("themeMode", s.theme), ("safeMode", .bool s.safeMode),
    ("scriptDisabledHosts", .arr (s.pausedHosts.map .str))]

/-- An entry of the list of paused hosts as hosts are compared. -/
def hostKey (entry : String) : String := Text.lower (Text.trim entry)

/-- Whether scripts are paused on a host. The empty host is that of pages without one. -/
def isPaused (s : Settings) (host : String) : Bool :=
  host ≠ "" && s.pausedHosts.any fun entry => hostKey entry = host

end Settings
end Userscript
