import Userscript.Session.Rounds

/-!
# Userscript.Session.Engine

The bridge to an engine in the same house.

The catalog and the settings are read beside each other, so the answer for a web page goes round the queue
three times: the reads, the notices of their ends, and the one who waited for them.
-/

namespace Userscript

def Engine.bridge : Bridge Engine where
  select url phase e :=
    let (r, e) := (Engine.select (.str url) (.str phase.name)).run.run { e with log := [] }
    (r, e.log, e)
  laps url := if Url.isWeb url then 3 else 0
  report id error e :=
    let (r, store) := (Catalog.Store.recordRun id error.isNone (match error with
      | some text => .str text
      | none => .null)).run.run e.store
    (r, { e with store })

end Userscript
