import Userscript.Glob.Matcher
import Userscript.Page.Indicator
import Userscript.Path

/-!
# Userscript.Config

What can be set about the engine before it starts, one section per concern, with its defaults.

The user's own switches are not here: they are kept with the catalog, as `Userscript.Settings`.
-/

namespace Userscript

namespace Config

structure Sandbox where
  /-- What the keys of all scripts begin with. -/
  keyStart : String := "musp_"
  /-- How many bytes an origin may store. -/
  quota : Int := 5 * 1024 * 1024
  /-- The longest code that is run. -/
  longest : Int := 1024 * 1024
  /-- Which log takes what scripts print. -/
  logName : String := "usmcore.sandbox.script"
deriving DecidableEq

structure Requests where
  verifiesTls : Bool := true
  followsRedirects : Bool := true
  userAgent : String := "MiniUSM/1.0 (+relay)"
deriving DecidableEq

/-- Where the proxy listens, and the largest page on which it runs scripts. -/
structure Proxy where
  host : String := "127.0.0.1"
  /-- The port; zero stands for any that is free. -/
  port : Int := 8080
  largestPage : Int := 5 * 1024 * 1024
deriving DecidableEq

structure Logging where
  level : String := "INFO"
  form : String := "%(asctime)s [%(levelname)s] %(name)s: %(message)s"
  toFile : Bool := false
  fileName : String := "miniusm.log"
  /-- The size in megabytes at which a new file is begun. -/
  megabytes : Int := 10
  /-- How many old files are kept. -/
  backups : Int := 5
deriving DecidableEq

end Config

structure Config where
  limits : Glob.Limits := {}
  sandbox : Config.Sandbox := {}
  requests : Config.Requests := {}
  badge : Page.Badge := {}
  directory : Path := {}
  catalogName : String := "catalog.db"
  proxy : Config.Proxy := {}
  logging : Config.Logging := {}
  debug : Bool := false
  /-- Where the engine listens. -/
  host : String := "127.0.0.1"
  port : Int := 8766
deriving DecidableEq

namespace Config

def catalogPath (c : Config) : Path := c.directory.under (.ofText c.catalogName)

end Config
end Userscript
