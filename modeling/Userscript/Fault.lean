import Userscript.Datum

/-!
# Userscript.Fault

Why an operation is refused. Each constructor is one cause; `Fault.kind` names the kind of error that it is
reported as, `Fault.message` words it, and `Fault.described` is both, as reports of runs show it.
-/

namespace Userscript

/-- A step on the way to a field: the name of a field or the index of an item. -/
inductive Place where
  | name (s : String)
  | index (n : Nat)
deriving DecidableEq

/-- What is wrong with a field of a message, by the rule that it breaks. -/
structure Complaint where
  path : List Place
  rule : String
deriving DecidableEq

inductive Fault where
  /-- A value is of a kind that the operation is not for. -/
  | wrongKind
  /-- A value lacks what the operation asks of it. -/
  | lacking
  /-- A value of the right kind cannot be used. -/
  | badValue (message : String)
  /-- An integer does not fit. -/
  | outOfRange (message : String)
  /-- A key is not there. -/
  | noKey
  /-- The database refuses a row. -/
  | refusedRow
  /-- Text cannot be put into, or read from, the bytes of an encoding. -/
  | unencodable
  | undecodable
  /-- A script uses what scripts may not use, or does not parse. -/
  | unsafeScript (reason : String) (line : Option Int)
  /-- The code of a script is of a type without a length. -/
  | unmeasured (type : String)
  /-- The code of a script is not text. -/
  | notSource
  /-- The catalog or the engine cannot be reached. -/
  | unavailable (message : String)
  /-- A storage area would grow past its quota. -/
  | quotaExceeded (origin : String) (needed quota : Int)
  /-- Two scripts share an id. -/
  | duplicateId (id : Json)
  /-- A message does not have the fields that it must have. -/
  | invalid (complaints : List Complaint)
  /-- A file is not there, or is a directory. -/
  | noFile (path : String)
  | directory (path : String)
  /-- Nobody can tell where the user's files are. -/
  | homeless
  /-- A collaborator failed, with the name and text of its own error. -/
  | collaborator (kind text : String)

namespace Fault

/-- The name of the kind of error. -/
def kind : Fault → String
  | .wrongKind | .unmeasured _ | .notSource => "TypeError"
  | .lacking => "AttributeError"
  | .badValue _ => "ValueError"
  | .outOfRange _ => "OverflowError"
  | .noKey => "KeyError"
  | .refusedRow => "IntegrityError"
  | .unencodable => "UnicodeEncodeError"
  | .undecodable => "UnicodeDecodeError"
  | .unsafeScript .. => "UnsafeScriptError"
  | .unavailable _ => "CollaboratorUnavailableError"
  | .quotaExceeded .. => "StorageQuotaExceededError"
  | .duplicateId _ => "CatalogIntegrityError"
  | .invalid _ => "ValidationError"
  | .noFile _ => "FileNotFoundError"
  | .directory _ => "IsADirectoryError"
  | .homeless => "RuntimeError"
  | .collaborator kind _ => kind

def message : Fault → String
  | .badValue message => message
  | .unsafeScript reason none => reason
  | .unsafeScript reason (some line) => s!"line {line}: " ++ reason
  | .unmeasured type => "object of type '" ++ type ++ "' has no len()"
  | .notSource => "compile() arg 1 must be a string, bytes or AST object"
  | .unavailable message => message
  | .quotaExceeded origin needed quota =>
    "Storage quota exceeded for " ++ origin ++ s!": {needed} > {quota} bytes"
  | .duplicateId id => "Duplicate script id " ++ id.display
  | .outOfRange message => message
  | .noFile path => "[Errno 2] No such file or directory: " ++ Text.quote path
  | .directory path => "[Errno 21] Is a directory: " ++ Text.quote path
  | .homeless => "Could not determine home directory."
  | .collaborator _ text => text
  | _ => ""

def ownKinds : List String := ["UsmError", "PatternCompileError", "UnsafeScriptError",
  "CollaboratorUnavailableError", "StorageQuotaExceededError", "CatalogIntegrityError"]

/-- Whether the fault is of a kind of the engine's own. -/
def isOwn (f : Fault) : Bool := ownKinds.contains f.kind

def isOfFiles (f : Fault) : Bool :=
  match f with
  | .noFile _ | .directory _ => true
  | _ => false

/-- The kind of a fault and its wording, if it has one. -/
def described (f : Fault) : String :=
  if f.message = "" then f.kind else f.kind ++ ": " ++ f.message

end Fault
end Userscript
