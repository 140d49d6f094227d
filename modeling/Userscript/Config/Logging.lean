import Userscript.Config
import Userscript.Fault
import Userscript.Text.Case
import Userscript.Text.Digit
import Userscript.Text.Word

/-!
# Userscript.Config.Logging

What the configuration of logging comes to: the least level that is logged, and the file, if there is one.

A level is a number of the names below. What is wrong with the file is told first, then what is wrong with the
level, then what is wrong with the form of lines.
-/

namespace Userscript.Config

/-- A file that is begun anew when it is full. -/
structure Rolling where
  file : String
  maxBytes : Int
  backups : Int
deriving DecidableEq

structure LogPlan where
  level : Nat
  file : Option Rolling
deriving DecidableEq

def levels : List (String × Nat) := [("CRITICAL", 50), ("FATAL", 50), ("ERROR", 40), ("WARNING", 30),
  ("WARN", 30), ("INFO", 20), ("DEBUG", 10), ("NOTSET", 0)]

def levelOf (name : String) : Except Fault Nat :=
  match levels.find? (·.1 = Text.upper name) with
  | some (_, n) => .ok n
  | none => .error .lacking

def skipWidth : List Char → List Char
  | '*' :: cs => cs
  | cs => cs.dropWhile fun c => (Text.digitValue? c).isSome

/-- The characters behind a point and a number or a star, if they are there. -/
def skipPrecision : List Char → List Char
  | '.' :: '*' :: cs => cs
  | '.' :: c :: cs => if (Text.digitValue? c).isSome then skipWidth cs else '.' :: c :: cs
  | cs => cs

/-- Whether a field of a line begins here: a percent sign, a name in parentheses, flags, width and precision, and
the letter of a conversion. -/
def startsField : List Char → Bool
  | '%' :: '(' :: cs =>
    let name := cs.takeWhile Text.isWord
    match cs.drop name.length with
    | ')' :: rest =>
      !name.isEmpty &&
      ((skipPrecision (skipWidth (rest.dropWhile "#0+ -".toList.contains))).head?.any fun c =>
        "diouxefgcrsaDIOUXEFGCRSA%".toList.contains c)
    | _ => false
  | _ => false

/-- Whether a form of lines shows anything of what is logged. -/
def showsField : List Char → Bool
  | [] => false
  | c :: cs => startsField (c :: cs) || showsField cs

/-- The form of lines, unless it shows nothing. -/
def checkForm (form : String) : Except Fault Unit :=
  if form = "" || showsField form.toList then .ok ()
  else .error (.badValue ("Invalid format '" ++ form ++ "' for '%' style"))

/-- The file of a log, unless it cannot be one. -/
def rollingOf (l : Logging) : Except Fault (Option Rolling) :=
  if !l.toFile then .ok none
  else match (Path.ofText l.fileName).segments with
    | [] => .error (.directory l.fileName)
    | [name] => .ok (some ⟨String.ofList name, l.megabytes * 1024 * 1024, l.backups⟩)
    | _ => .error (.noFile l.fileName)

/-- How a configuration sets logging up; while mistakes are looked for, everything is shown. -/
def logPlan (c : Config) : Except Fault LogPlan := do
  let file ← rollingOf c.logging
  let level ← levelOf (if c.debug then "DEBUG" else c.logging.level)
  checkForm c.logging.form
  return ⟨level, file⟩

end Userscript.Config
