import Userscript.Url.Bracketed

/-!
# Userscript.Path

Paths of files, in one form: empty segments and `.` count for nothing, `..` and `~` stay as they are, and exactly
two slashes at the start are not the same as one.

* `Path.ofText` and `Path.text` read and write a path;
* `Path.under` is the path of what has a path within a directory.
-/

namespace Userscript

inductive Path.Root where
  | here
  | top
  /-- Two slashes. -/
  | apart
deriving DecidableEq

/-- A path: where it starts, and its segments. -/
structure Path where
  root : Path.Root := .here
  segments : List (List Char) := []
deriving DecidableEq

namespace Path

def Root.text : Root → List Char
  | here => []
  | top => ['/']
  | apart => ['/', '/']

def rootOf (cs : List Char) : Root :=
  match (cs.takeWhile (· = '/')).length with
  | 0 => .here
  | 2 => .apart
  | _ => .top

def counts (segment : List Char) : Bool := segment ≠ [] && segment ≠ ['.']

def ofText (s : String) : Path :=
  ⟨rootOf s.toList, (Url.cutAll '/' s.toList).filter counts⟩

/-- Writes a path; the directory where one is, is a point. -/
def text (p : Path) : String :=
  if p.root = .here && p.segments.isEmpty then "."
  else String.ofList (p.root.text ++ List.intercalate ['/'] p.segments)

/-- The path of what has the path `p` within a directory. -/
def under (directory p : Path) : Path :=
  if p.root = .here then { directory with segments := directory.segments ++ p.segments } else p

end Path
end Userscript
