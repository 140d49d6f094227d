import Userscript.Datum
import Userscript.Fault

/-!
# Userscript.Phase

The three phases of a page's life and the scripts that each admits.

A script says in which phase it wants to run; one that says nothing wants `document-end`. Such
scripts are admitted at `document-end` and once more at `document-idle`.
-/

namespace Userscript

/-- A phase of a page's life: at once, when the page is parsed, when it is loaded. -/
inductive Phase where
  | start
  | parsed
  | idle
deriving DecidableEq

namespace Phase

/-- The phases in the order in which a page goes through them. -/
def order : List Phase := [start, parsed, idle]

def name : Phase → String
  | start => "document-start"
  | parsed => "document-end"
  | idle => "document-idle"

def ofName? (s : String) : Option Phase := order.find? (·.name = s)

/-- The phase that a value names, or the fault that tells the names there are. -/
def ofJson (v : Json) : Except Fault Phase :=
  let named := match v with
    | .str s => ofName? s
    | _ => none
  match named with
  | some p => .ok p
  | none =>
    .error (.badValue ("Unknown phase " ++ v.shown ++ "; expected one of " ++
      (Json.arr (order.map fun p => .str p.name)).shown))

/-- Whether a phase admits scripts that want to run at `wish`. -/
def admits (p : Phase) (wish : String) : Bool :=
  wish = p.name || (p = idle && wish = parsed.name)

/-- When a script wants to run, with the default for one that does not say. -/
def wishOf (runAt : Json) : Json := runAt.orElse (.str parsed.name)

/-- Whether a script that wants to run at `runAt` runs in the phase that `phase` names. A name of no
phase admits nothing; a list or an object is refused as a wish. -/
def applies (runAt phase : Json) : Except Fault Bool :=
  match ofJson phase with
  | .error _ => .ok false
  | .ok p =>
    match wishOf runAt with
    | .str wish => .ok (p.admits wish)
    | .arr _ | .obj _ => .error .wrongKind
    | _ => .ok false

end Phase
end Userscript
