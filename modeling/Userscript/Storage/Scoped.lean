import Userscript.Fault
import Userscript.Json.Reader
import Userscript.Log
import Userscript.Storage

/-!
# Userscript.Storage.Scoped

The values of one script on one origin: JSON text under keys that name the script.

A value that has no JSON form, or for which there is no room, is not kept; the log says so, and the
script does not learn of it. Text that is not JSON counts as no value. Where the id or a key has no text,
because an integer in it has too many digits, there is no key to keep a value under, and no line for the log
either: that fault reaches the script.
-/

namespace Userscript.Storage

structure Scope where
  /-- What the keys of all scripts begin with. -/
  keyStart : String := "musp_"
  /-- The script's id. -/
  owner : Datum
  origin : String

/-- A script's id, which it may lack, as data. -/
def ownerOf (id : Option Int) : Datum :=
  match id with
  | none => .none
  | some n => .int n

namespace Scope

/-- The key under which the script's value of a key is kept, unless the id or the key has no text. -/
def key (scope : Scope) (k : Datum) : Except Fault String :=
  if scope.owner.isWritable && k.isWritable then
    .ok (scope.keyStart ++ scope.owner.display ++ "_" ++ k.display)
  else .error (.badValue Number.NumeralFault.unwritable.message)

/-- The value of a key, if there is one that can be read. -/
def get? (scope : Scope) (k : Datum) (s : Storage) : Except Fault (Option Json) :=
  match scope.key k with
  | .error e => .error e
  | .ok name =>
    match s.get? scope.origin name with
    | none => .ok none
    | some text => .ok (Json.read true text).toOption

/-- What the log says of a value that was not kept. -/
def refusal (scope : Scope) (k : Datum) (reason : String) : Log :=
  [.warn ("[Storage] GM_setValue failed for script " ++ scope.owner.display ++ " key " ++ k.shown ++ ": " ++
    reason)]

def set (scope : Scope) (k value : Datum) (s : Storage) : Except Fault Unit × Storage × Log :=
  match scope.key k with
  | .error e => (.error e, s, [])
  | .ok name =>
    match value.toJson with
    | .error e => (.ok (), s, scope.refusal k e.message)
    | .ok v =>
      match s.set scope.origin name v.text with
      | (.ok _, s) => (.ok (), s, [])
      | (.error e, s) => (.ok (), s, scope.refusal k e.message)

end Scope
end Userscript.Storage
