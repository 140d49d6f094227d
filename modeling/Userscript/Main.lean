import Userscript.Catalog.Archive
import Userscript.Command
import Userscript.Config.Environment
import Userscript.Config.Logging

/-!
# Userscript.Main

The program: it reads the environment, the catalog and the files that a command names, does the command, and
writes the catalog back.

What listens on the network is not part of it: `serve` and `proxy` only tell where they would listen.
-/

namespace Userscript.CommandLine

/-- The variables that the configuration looks at. -/
def known : List String := ["HOME", "USM_MAX_PATTERN_LENGTH", "USM_MAX_WILDCARDS", "USM_PATTERN_CACHE_SIZE",
  "USM_STORAGE_PREFIX", "USM_STORAGE_QUOTA_BYTES", "USM_MAX_CODE_LENGTH", "USM_RELAY_VERIFY_TLS",
  "USM_RELAY_FOLLOW_REDIRECTS", "USM_RELAY_USER_AGENT", "USM_INDICATOR_ENABLED", "USM_INDICATOR_LABEL",
  "USM_DATA_DIR", "USM_PROXY_HOST", "USM_PROXY_PORT", "USM_LOG_LEVEL", "USM_LOG_FILE", "USM_DEBUG", "USM_API_HOST",
  "USM_API_PORT"]

def environment : IO Config.Environment :=
  known.filterMapM fun name => do return (← IO.getEnv name).map fun value => (name, value)

def bytesOf (path : Path) : IO (Except Fault (List UInt8)) := do
  try
    return .ok (← IO.FS.readBinFile path.text).toList
  catch
    | .noFileOrDirectory .. => return .error (.noFile path.text)
    | _ => return .error (.directory path.text)

def filesOf (args : List String) : IO Command.Files := do
  match Command.ofArguments args with
  | .ok (.add path _) =>
    let content ← bytesOf path
    return fun _ => content
  | _ => return fun path => .error (.noFile path.text)

/-- The catalog of a configuration; an empty one if there is no file yet. -/
def loadCatalog (c : Config) : IO Catalog.Store := do
  let tables : Catalog.Tables := match ← bytesOf c.catalogPath with
    | .ok bytes =>
      match (Command.textOf bytes).toOption.bind fun s => (Json.read false s).toOption with
      | some v => .ofJson v
      | none => {}
    | .error _ => {}
  return { backend := .database { disk := tables } }

/-- Writes the catalog back if it changed. -/
def saveCatalog (c : Config) (old new : Catalog.Store) : IO Unit := do
  match old.backend, new.backend with
  | .database a, .database b =>
    if a.disk = b.disk then return
    IO.FS.createDirAll c.directory.text
    IO.FS.writeFile c.catalogPath.text b.disk.toJson.text
  | _, _ => return

/-- Tells of a fault, and gives the code to end with. -/
def failed (f : Fault) : IO UInt32 := do
  IO.eprintln f.described
  return 1

def run (args : List String) : IO UInt32 := do
  match Config.ofEnvironment (← environment) with
  | .error f => failed f
  | .ok c =>
    match c.logPlan with
    | .error f => failed f
    | .ok _ =>
      let old ← loadCatalog c
      match Command.runArguments (← filesOf args) c.limits args old with
      | (.error f, _) => failed f
      | (.ok ending, store) =>
        IO.print ending.output
        if ending.serves then IO.eprintln ("The engine would listen on " ++ c.host ++ ":" ++ toString c.port)
        saveCatalog c old store
        return UInt32.ofNat ending.code

end Userscript.CommandLine

def main (args : List String) : IO UInt32 := Userscript.CommandLine.run args
