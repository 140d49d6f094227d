/-!
# Userscript.Log

What the engine has to say about its work: lines with a level, oldest first.
-/

namespace Userscript

inductive Level where
  | info
  | warning
  | error
deriving DecidableEq

structure LogLine where
  level : Level
  text : String
deriving DecidableEq

/-- Lines in the order in which they were written. -/
abbrev Log := List LogLine

def LogLine.warn (text : String) : LogLine := ⟨.warning, text⟩

def LogLine.fail (text : String) : LogLine := ⟨.error, text⟩

def LogLine.note (text : String) : LogLine := ⟨.info, text⟩

end Userscript
