import Userscript.Fault
import Userscript.Json.Value

/-!
# Userscript.Storage

Text by key, in one area for each origin, as browsers keep it. An area holds at most `quota` bytes
of UTF-8, keys and values together.

* `Storage.get?`, `Storage.set`, `Storage.remove`, `Storage.clear` are the operations;
* `Storage.used` is what an area holds, counted along with every change; `Area.size` is the same
  counted from its entries.
-/

namespace Userscript

/-- The area of an origin: entries in the order in which their keys were first set, and how many bytes
they hold. -/
structure Area where
  entries : Fields String := []
  used : Nat := 0
deriving DecidableEq

def entrySize (key value : String) : Nat := key.utf8ByteSize + value.utf8ByteSize

namespace Area

def size (a : Area) : Nat := a.entries.foldr (fun e n => entrySize e.1 e.2 + n) 0

/-- The bytes that the entry of a key holds; none if there is no such entry. -/
def held (key : String) (a : Area) : Nat :=
  match Fields.get? key a.entries with
  | none => 0
  | some old => entrySize key old

/-- The bytes that the area would hold with an entry set. -/
def needed (key value : String) (a : Area) : Nat := a.used - a.held key + entrySize key value

def set (key value : String) (a : Area) : Area :=
  ⟨Fields.set key value a.entries, a.needed key value⟩

/-- The area without the entry of a key. -/
def remove (key : String) (a : Area) : Area :=
  ⟨Fields.erase key a.entries, a.used - a.held key⟩

end Area

/-- The areas of all origins under one quota. -/
structure Storage where
  quota : Int
  areas : Fields Area := []
deriving DecidableEq

namespace Storage

/-- The area of an origin; empty if nothing was ever set there. -/
def area (s : Storage) (origin : String) : Area := (Fields.get? origin s.areas).getD {}

def get? (s : Storage) (origin key : String) : Option String :=
  Fields.get? key (s.area origin).entries

/-- The bytes that the area of an origin holds. -/
def used (s : Storage) (origin : String) : Nat := (s.area origin).used

/-- Sets the value of a key, unless the area would grow past the quota. Either way the origin has an
area from then on. -/
def set (s : Storage) (origin key value : String) : Except Fault Unit × Storage :=
  let a := s.area origin
  let needed := a.needed key value
  if (needed : Int) > s.quota then
    (.error (.quotaExceeded origin needed s.quota),
      { s with areas := Fields.set origin a s.areas })
  else (.ok (), { s with areas := Fields.set origin (a.set key value) s.areas })

def remove (s : Storage) (origin key : String) : Storage :=
  match Fields.get? origin s.areas with
  | none => s
  | some a => { s with areas := Fields.set origin (a.remove key) s.areas }

def clear (s : Storage) (origin : String) : Storage :=
  { s with areas := Fields.erase origin s.areas }

def clearAll (s : Storage) : Storage := { s with areas := [] }

end Storage
end Userscript
