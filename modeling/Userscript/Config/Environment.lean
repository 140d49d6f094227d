import Userscript.Catalog.Script
import Userscript.Config
import Userscript.Text.Case

/-!
# Userscript.Config.Environment

The configuration that the variables of an environment ask for.

Only the word `true`, in letters of any size, switches on. Numbers are read as numerals; the first that is none
is the one that is told of.
-/

namespace Userscript.Config

abbrev Environment := Fields String

namespace Environment

variable (e : Environment)

def text (name default : String) : String := (Fields.get? name e).getD default

def switch (name : String) (default : Bool) : Bool :=
  ((Fields.get? name e).map fun s => decide (Text.lower s = "true")).getD default

def number (name : String) (default : Int) : Except Fault Int :=
  match Fields.get? name e with
  | none => .ok default
  | some s => (Json.str s).toInt

/-- The directory of the user. Nobody can tell which one is meant if it begins with a tilde. -/
def home : Except Fault Path :=
  let shown := String.ofList ((e.text "HOME" "").toList.reverse.dropWhile (· = '/')).reverse
  if shown.startsWith "~" then .error .homeless
  else .ok (.ofText (if shown = "" then "/" else shown))

end Environment

open Environment in
def ofEnvironment (e : Environment) : Except Fault Config := do
  let maxLength ← e.number "USM_MAX_PATTERN_LENGTH" 2048
  let maxStars ← e.number "USM_MAX_WILDCARDS" 64
  let cacheSize ← e.number "USM_PATTERN_CACHE_SIZE" 1024
  let quota ← e.number "USM_STORAGE_QUOTA_BYTES" (5 * 1024 * 1024)
  let longest ← e.number "USM_MAX_CODE_LENGTH" (1024 * 1024)
  let home ← e.home
  let proxyPort ← e.number "USM_PROXY_PORT" 8080
  let port ← e.number "USM_API_PORT" 8766
  return {
    limits := ⟨maxLength, maxStars, some cacheSize⟩
    sandbox := { keyStart := e.text "USM_STORAGE_PREFIX" "musp_", quota, longest }
    requests := {
      verifiesTls := e.switch "USM_RELAY_VERIFY_TLS" true
      followsRedirects := e.switch "USM_RELAY_FOLLOW_REDIRECTS" true
      userAgent := e.text "USM_RELAY_USER_AGENT" "MiniUSM/1.0 (+relay)" }
    badge := {
      enabled := e.switch "USM_INDICATOR_ENABLED" true
      label := e.text "USM_INDICATOR_LABEL" "MiniUSM" }
    directory := ((Fields.get? "USM_DATA_DIR" e).map .ofText).getD (home.under (.ofText ".miniusm"))
    proxy := { host := e.text "USM_PROXY_HOST" "127.0.0.1", port := proxyPort }
    logging := { level := e.text "USM_LOG_LEVEL" "INFO", toFile := e.switch "USM_LOG_FILE" false }
    debug := e.switch "USM_DEBUG" false
    host := e.text "USM_API_HOST" "127.0.0.1"
    port }

end Userscript.Config
