import Userscript.Config
import Userscript.Datum

/-!
# Userscript.Config.Sections

The configuration as data: an object with one object per section.

Reading takes what is there and leaves the rest at its default; writing shows everything.
-/

namespace Userscript.Config

/-- The fields of an object; anything else has none. -/
def fieldsOf : Option Json → Fields Json
  | some (.obj fields) => fields
  | _ => []

/-- Text in a field; anything else counts as its text. -/
def textIn (fields : Fields Json) (name default : String) : String :=
  ((Fields.get? name fields).map Json.display).getD default

def numberIn (fields : Fields Json) (name : String) (default : Int) : Int :=
  match Fields.get? name fields with
  | some (.int n) => n
  | some (.bool b) => if b then 1 else 0
  | _ => default

def switchIn (fields : Fields Json) (name : String) (default : Bool) : Bool :=
  ((Fields.get? name fields).map Json.truthy).getD default

def ofFields (all : Fields Json) : Config :=
  let part (name : String) : Fields Json := fieldsOf (Fields.get? name all)
  let limits := part "match"
  let sandbox := part "sandbox"
  let relay := part "relay"
  let badge := part "indicator"
  let proxy := part "proxy"
  let log := part "log"
  { limits := {
      maxLength := numberIn limits "max_pattern_length" 2048
      maxStars := numberIn limits "max_wildcards" 64
      cacheSize := match Fields.get? "cache_size" limits with
        | some .null => none
        | _ => some (numberIn limits "cache_size" 1024) }
    sandbox := {
      keyStart := textIn sandbox "storage_prefix" "musp_"
      quota := numberIn sandbox "storage_quota_bytes" (5 * 1024 * 1024)
      longest := numberIn sandbox "max_code_length" (1024 * 1024)
      logName := textIn sandbox "script_logger" "usmcore.sandbox.script" }
    requests := {
      verifiesTls := switchIn relay "verify_tls" true
      followsRedirects := switchIn relay "follow_redirects" true
      userAgent := textIn relay "user_agent" "MiniUSM/1.0 (+relay)" }
    badge := {
      enabled := switchIn badge "enabled" true
      label := textIn badge "label" "MiniUSM"
      elementId := textIn badge "element_id" "miniUSM-badge" }
    proxy := {
      host := textIn proxy "listen_host" "127.0.0.1"
      port := match Fields.get? "listen_port" proxy with
        | some .null => 0
        | _ => numberIn proxy "listen_port" 8080
      largestPage := numberIn proxy "max_document_bytes" (5 * 1024 * 1024) }
    logging := {
      level := textIn log "level" "INFO"
      form := textIn log "format" "%(asctime)s [%(levelname)s] %(name)s: %(message)s"
      toFile := switchIn log "file_enabled" false
      fileName := textIn log "file_name" "miniusm.log"
      megabytes := numberIn log "max_file_size_mb" 10
      backups := numberIn log "backup_count" 5 }
    debug := switchIn all "debug" false
    host := textIn all "api_host" "127.0.0.1"
    port := numberIn all "api_port" 8766 }

/-- The configuration as data, with the file of the catalog. -/
def toFields (c : Config) : Fields Json :=
  [("match", .obj [("max_pattern_length", .int c.limits.maxLength), ("max_wildcards", .int c.limits.maxStars),
      ("cache_size", (c.limits.cacheSize.map Json.int).getD .null)]),
    ("sandbox", .obj [("storage_prefix", .str c.sandbox.keyStart),
      ("storage_quota_bytes", .int c.sandbox.quota), ("max_code_length", .int c.sandbox.longest),
      ("script_logger", .str c.sandbox.logName)]),
    ("relay", .obj [("verify_tls", .bool c.requests.verifiesTls),
      ("follow_redirects", .bool c.requests.followsRedirects), ("user_agent", .str c.requests.userAgent)]),
    ("indicator", .obj [("enabled", .bool c.badge.enabled), ("label", .str c.badge.label),
      ("element_id", .str c.badge.elementId)]),
    ("proxy", .obj [("listen_host", .str c.proxy.host), ("listen_port", .int c.proxy.port),
      ("max_document_bytes", .int c.proxy.largestPage)]),
    ("log", .obj [("level", .str c.logging.level), ("format", .str c.logging.form),
      ("file_enabled", .bool c.logging.toFile), ("file_name", .str c.logging.fileName),
      ("max_file_size_mb", .int c.logging.megabytes), ("backup_count", .int c.logging.backups)]),
    ("db_path", .str c.catalogPath.text), ("debug", .bool c.debug), ("api_host", .str c.host),
    ("api_port", .int c.port)]

end Userscript.Config
