import Userscript.Machine.Item

/-!
# Userscript.Machine.Arity

How many arguments a function takes, and of which types, as errors tell it.
-/

namespace Userscript.Machine

namespace Arity

open Act

abbrev Named := List (String × Value)

def noNames (what : String) (named : Named) : Act Unit :=
  if named.isEmpty then return else typeError (what ++ "() takes no keyword arguments")

def none (what : String) (args : List Value) (named : Named) : Act Unit := do
  noNames what named
  match args with
  | [] => return
  | _ => typeError (what ++ "() takes no arguments (" ++ toString args.length ++ " given)")

def one (what : String) (args : List Value) (named : Named) : Act Value := do
  noNames what named
  match args with
  | [v] => return v
  | _ => typeError (what ++ "() takes exactly one argument (" ++ toString args.length ++ " given)")

def countText (n : Nat) : String := toString n ++ (if n = 1 then " argument" else " arguments")

def between (name : String) (least most : Nat) (args : List Value) (named : Named) : Act Unit := do
  noNames name named
  let got := args.length
  if got < least then
    let bound := if least = most then "" else "at least "
    typeError (name ++ " expected " ++ bound ++ countText least ++ ", got " ++ toString got)
  else if most < got then
    let bound := if least = most then "" else "at most "
    typeError (name ++ " expected " ++ bound ++ countText most ++ ", got " ++ toString got)
  else return

/-- Takes at most so many arguments, named or not. -/
def atMost (name : String) (most : Nat) (args : List Value) (named : Named) : Act Unit :=
  let got := args.length + named.length
  if got ≤ most then return
  else
    typeError (name ++ "() takes at most " ++ countText most ++ " (" ++ toString got ++ " given)")

def whole (v : Value) : Act Int := do
  match Operate.index? v with
  | some n => return n
  | .none =>
    let type ← look (·.typeName v)
    typeError ("'" ++ type ++ "' object cannot be interpreted as an integer")

/-- The argument at a place or of a name. -/
def pick (args : List Value) (named : Named) (index : Nat) (name : String) : Option Value :=
  args[index]? <|> Fields.get? name named

/-- Refuses named arguments but those that are known. -/
def known (what : String) (names : List String) (named : Named) : Act Unit :=
  match named.find? fun p => !names.contains p.1 with
  | some p => typeError ("'" ++ p.1 ++ "' is an invalid keyword argument for " ++ what ++ "()")
  | .none => return

end Arity
end Userscript.Machine
