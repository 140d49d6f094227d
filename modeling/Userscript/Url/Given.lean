import Userscript.Datum
import Userscript.Url.Authority

/-!
# Userscript.Url.Given

URLs as they are given, which need not be text. What counts as absent has no host and is no web page;
anything else but text is refused.
-/

namespace Userscript.Url.Given

def isWeb : Json → Except Fault Bool
  | .str s => .ok (Url.isWeb s)
  | v => if v.truthy then .error .lacking else .ok false

/-- The name under which scripts are paused on the pages of what is given. -/
def siteHost : Json → Except Fault String
  | .str s => .ok (Url.siteHost s)
  | v => if v.truthy then .error .lacking else .ok ""

/-- The origin of what is given; without a URL it is that of empty bytes. -/
def origin : Json → Except Fault String
  | .str s => Url.origin s
  | v => if v.truthy then .error .lacking else .ok "b''://b''"

/-- The bare host of what is given. A list or an object is looked through for a scheme's mark, and
without one its text is taken for a host. -/
def bareHost : Json → Except Fault String
  | .str s => .ok (Url.bareHost s)
  | .arr items =>
    if items.any fun | .str s => s = "://" | _ => false then siteHost (.arr items)
    else .ok (Url.siteHost ("http://" ++ (Json.arr items).display))
  | .obj fields =>
    if fields.any (·.1 = "://") then siteHost (.obj fields)
    else .ok (Url.siteHost ("http://" ++ (Json.obj fields).display))
  | _ => .error .wrongKind

end Userscript.Url.Given
