import Userscript.Fault

/-!
# Userscript.Command.Arguments

The arguments of a command: options with or without a value, and operands.

An option is written with its name or the start of it, as long as no other begins so; a value stands behind an
equals sign or is the next argument, if that does not look like an option. Behind `--` nothing is an option.

* `Arguments.read` reads arguments by a table of options, or tells why it cannot.
-/

namespace Userscript.Command

structure Flag where
  /-- The name with its dashes. -/
  name : String
  takesValue : Bool := false
  /-- The values that it may have; any if there are none. -/
  choices : List String := []
deriving DecidableEq

inductive Refusal where
  /-- The arguments are not those of a command. -/
  | usage
  /-- How to use the command is asked. -/
  | help
  | fault (f : Fault)

inductive Word where
  | operand (text : String)
  | option (flag : Flag) (value : Option String)
  /-- An option that the command does not have. -/
  | stranger
  /-- Two dashes. -/
  | separator

/-- The arguments of a command: its operands, and its options with their values, in order. -/
structure Arguments where
  operands : List String := []
  options : List (String × String) := []
deriving DecidableEq

namespace Arguments

/-- The option that asks how to use a command, in its two names. -/
def helpFlags : List Flag := [⟨"-h", false, []⟩, ⟨"--help", false, []⟩]

/-- A text cut at its first equals sign. -/
def cutValue (s : String) : String × Option String :=
  let front := s.toList.takeWhile (· ≠ '=')
  match s.toList.drop front.length with
  | [] => (s, none)
  | _ :: value => (String.ofList front, some (String.ofList value))

/-- Whether a text is a number with a minus sign. -/
def isNegative (s : String) : Bool :=
  match s.toList with
  | '-' :: cs =>
    let whole := cs.takeWhile Char.isDigit
    match cs.drop whole.length with
    | [] => !whole.isEmpty
    | '.' :: fraction => !fraction.isEmpty && fraction.all Char.isDigit
    | _ => false
  | _ => false

/-- The options that a text may mean, with a value if it gives one. -/
def meanings (flags : List Flag) (s : String) : List Word :=
  if s.startsWith "--" then
    let (name, value) := cutValue s
    (flags.filter fun f => f.name.startsWith name).map fun f => .option f value
  else
    flags.filterMap fun f =>
      if f.name.toList = s.toList.take 2 then some (.option f (some (String.ofList (s.toList.drop 2))))
      else if f.name.startsWith s then some (.option f none)
      else none

/-- What an argument before `--` looks like; nothing if it may mean several options. -/
def word? (flags : List Flag) (s : String) : Option Word :=
  let (name, value) := cutValue s
  let named (n : String) := flags.find? (·.name = n)
  if !s.startsWith "-" || s = "-" then some (.operand s)
  else if s = "--" then some .separator
  else match named s, named name with
    | some f, _ => some (.option f none)
    | none, some f => some (.option f value)
    | none, none =>
      match meanings flags s with
      | [w] => some w
      | _ :: _ :: _ => none
      | [] => some (if isNegative s || s.toList.contains ' ' then .operand s else .stranger)

def words (flags : List Flag) : List String → Except Refusal (List Word)
  | [] => .ok []
  | s :: rest =>
    match word? flags s with
    | none => .error .usage
    | some .separator => .ok (.separator :: rest.map .operand)
    | some w => (words flags rest).map (w :: ·)

def note (f : Flag) (value : String) (a : Arguments) : Except Refusal Arguments :=
  if f ∈ helpFlags then .error .help
  else if f.choices.isEmpty || f.choices.contains value then
    .ok { a with options := a.options ++ [(f.name, value)] }
  else .error .usage

/-- Goes through words with as many operands still to come as are wanted, and tells whether a word was left
over. -/
def gather (wanted : Nat) (a : Arguments) (leftOver : Bool) :
    List Word → Except Refusal (Nat × Arguments × Bool)
  | [] => .ok (wanted, a, leftOver)
  | .option f (some value) :: rest =>
    if !f.takesValue then .error .usage
    else if value = "--" then .error (.fault (.badValue "not enough values to unpack (expected 1, got 0)"))
    else (note f value a).bind fun a => gather wanted a leftOver rest
  | .option f none :: .operand value :: rest =>
    if f.takesValue then (note f value a).bind fun a => gather wanted a leftOver rest
    else (note f "" a).bind fun a => gather wanted a leftOver (.operand value :: rest)
  | .option f none :: rest =>
    if f.takesValue then .error .usage
    else (note f "" a).bind fun a => gather wanted a leftOver rest
  | .stranger :: rest => gather wanted a true rest
  | .operand s :: .separator :: rest =>
    match wanted with
    | n + 1 => gather n { a with operands := a.operands ++ [s] } leftOver rest
    | 0 => gather 0 a true rest
  | .separator :: .operand s :: rest =>
    match wanted with
    | n + 1 => gather n { a with operands := a.operands ++ [s] } leftOver rest
    | 0 => gather 0 a true rest
  | .operand s :: rest =>
    match wanted with
    | n + 1 => gather n { a with operands := a.operands ++ [s] } leftOver rest
    | 0 => gather 0 a true rest
  | .separator :: rest => gather wanted a true rest

/-- Reads arguments with so many operands and options of a table. -/
def read (operands : Nat) (flags : List Flag) (args : List String) : Except Refusal Arguments :=
  match words (helpFlags ++ flags) args with
  | .error r => .error r
  | .ok ws =>
    match gather operands {} false ws with
    | .error r => .error r
    | .ok (missing, a, leftOver) => if 0 < missing || leftOver then .error .usage else .ok a

def values (name : String) (a : Arguments) : List String :=
  (a.options.filter (·.1 = name)).map (·.2)

def has (name : String) (a : Arguments) : Bool := a.options.any (·.1 = name)

end Arguments
end Userscript.Command
