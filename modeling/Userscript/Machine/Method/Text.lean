import Userscript.Machine.Arity
import Userscript.Text.Digit
import Userscript.Text.Identifier
import Userscript.Text.Pieces
import Userscript.Text.Word

/-!
# Userscript.Machine.Method.Text

The methods of texts and of bytes.
-/

namespace Userscript.Machine.Method

open Act

def textNames : List String := [
  "capitalize", "casefold", "center", "count", "encode", "endswith", "find", "index", "isalnum",
  "isalpha", "isascii", "isdecimal", "isdigit", "isidentifier", "islower", "isnumeric", "isprintable",
  "isspace", "isupper", "join", "ljust", "lower", "lstrip", "partition", "removeprefix",
  "removesuffix", "replace", "rfind", "rindex", "rjust", "rpartition", "rsplit", "rstrip", "split",
  "splitlines", "startswith", "strip", "swapcase", "title", "upper", "zfill"]

def textOf (cs : List Char) : Value := .str (String.ofList cs)

def wantText (refuse : String → String) (v : Value) : Act (List Char) := do
  match v with
  | .str s => return s.toList
  | v =>
    let type ← look (·.typeName v)
    typeError (refuse type)

/-- A text that is an argument; an error names nothing by its value. -/
def wantPlainText (refuse : String → String) (v : Value) : Act (List Char) :=
  wantText (fun type => refuse (if type = "NoneType" then "None" else type)) v

/-- The start and end of a search, and the text between them. -/
def window (cs : List Char) (start stop : Option Value) : Act (Nat × List Char) := do
  let (a, b, _) ← lift (Item.sliceBounds cs.length (start.getD .none) (stop.getD .none) .none)
  return (a.toNat, (cs.take b.toNat).drop a.toNat)

/-- Whether a start lies in a text, so that an empty piece can be found there. -/
def startsInside (cs : List Char) (start : Option Value) : Bool :=
  match start.bind Operate.index? with
  | some n => n ≤ cs.length
  | none => true

def search (last : Bool) (cs : List Char) (args : List Value) : Act (Option Nat) := do
  let (start, part) ← window cs args[1]? args[2]?
  let piece ← wantText (fun type => "must be str, not " ++ type) (args.headD .none)
  if !startsInside cs args[1]? then return none
  else
    let found := if last then Text.findLast? piece part else Text.find? piece 0 part
    return found.map (· + start)

/-- Whether a text starts or ends with a piece or with one of several. -/
def bounded (name : String) (test : List Char → List Char → Bool) (cs : List Char)
    (args : List Value) : Act Value := do
  let (_, part) ← window cs args[1]? args[2]?
  let inside := startsInside cs args[1]?
  match args.headD .none with
  | .str p => return .bool (inside && test p.toList part)
  | .tuple ps =>
    let ps ← each (wantText fun type =>
      "tuple for " ++ name ++ " must only contain str, not " ++ type) ps
    return .bool (inside && ps.any (test · part))
  | v =>
    let type ← look (·.typeName v)
    typeError (name ++ " first arg must be str or a tuple of str, not " ++ type)

/-- A text without the given characters at its ends, or without blanks. -/
def stripped (name : String) (left right : Bool) (cs : List Char) (args : List Value) : Act Value := do
  let drops : Char → Bool ← match args with
    | [] | [.none] => pure Text.isBlank
    | v :: _ => do
      let set ← wantText (fun _ => name ++ " arg must be None or str") v
      pure fun c => set.contains c
  let cs := if left then cs.dropWhile drops else cs
  return textOf (if right then (cs.reverse.dropWhile drops).reverse else cs)

/-- How often a text is split: as often as it can be, unless a limit is given. -/
def splitLimit (cs : List Char) (v? : Option Value) : Act Nat := do
  match v? with
  | none => return cs.length + 1
  | some v =>
    let n ← Arity.whole v
    return if n < 0 then cs.length + 1 else n.toNat

/-- The parts of a text, counted from its end if `back` is set. -/
def splits (back : Bool) (cs : List Char) (args : List Value) (named : Arity.Named) : Act Value := do
  let limit ← splitLimit cs (Arity.pick args named 1 "maxsplit")
  let turn (ps : List (List Char)) : List (List Char) :=
    if back then (ps.map List.reverse).reverse else ps
  let source := if back then cs.reverse else cs
  match (Arity.pick args named 0 "sep").getD .none with
  | .none => make (.list ((turn (Text.words limit source)).map textOf))
  | v =>
    let separator ← wantText (fun type => "must be str or None, not " ++ type) v
    if separator.isEmpty then valueError "empty separator"
    else
      let separator := if back then separator.reverse else separator
      make (.list ((turn (Text.splitAt separator limit source)).map textOf))

/-- The pieces that are to be joined. -/
def joinable : Nat → List Value → Act (List (List Char))
  | _, [] => return []
  | i, .str s :: rest => do
    let more ← joinable (i + 1) rest
    return s.toList :: more
  | i, v :: _ => do
    let type ← look (·.typeName v)
    typeError ("sequence item " ++ toString i ++ ": expected str instance, " ++ type ++ " found")

/-- A text in the middle, at the left or at the right of a width. -/
def aligned (side : Char) (cs : List Char) (args : List Value) : Act Value := do
  let width ← Arity.whole (args.headD .none)
  let fill ← match args[1]? with
    | none => pure ' '
    | some v =>
      match ← wantText (fun type => "The fill character must be a unicode character, not " ++ type) v with
      | [c] => pure c
      | _ => typeError "The fill character must be exactly one character long"
  let missing := width.toNat - cs.length
  let filler (n : Nat) := List.replicate n fill
  let left := if side = '<' then 0 else if side = '>' then missing
    else missing / 2 + (if missing % 2 = 1 && width % 2 = 1 then 1 else 0)
  return textOf (filler left ++ cs ++ filler (missing - left))

/-- A text as it is written in a title: the first letter of each word large. -/
def titled (start : Bool) : List Char → List Char
  | [] => []
  | c :: rest =>
    let cased := Text.lowerChar c ≠ [c] || Text.upperChar c ≠ [c]
    if cased then (if start then Text.upperChar c else Text.lowerChar c) ++ titled false rest
    else c :: titled true rest

def isLarge (c : Char) : Bool := Text.lowerChar c ≠ [c]

def isSmall (c : Char) : Bool := Text.upperChar c ≠ [c] && !isLarge c

def isLetter (c : Char) : Bool :=
  Text.isIdentifierStart c && c ≠ '_'

/-- Whether all characters of a text that is not empty pass a test. -/
def every (test : Char → Bool) (cs : List Char) : Value := .bool (!cs.isEmpty && cs.all test)

/-- A text cut at the first or last occurrence of a separator. -/
def partitioned (last : Bool) (cs : List Char) (v : Value) : Act Value := do
  let separator ← wantText (fun type => "must be str, not " ++ type) v
  if separator.isEmpty then valueError "empty separator"
  else
    let place? := if last then Text.findLast? separator cs else Text.find? separator 0 cs
    match place? with
    | some n => return .tuple [textOf (cs.take n), textOf separator, textOf (cs.drop (n + separator.length))]
    | none =>
      return .tuple (if last then [.str "", .str "", textOf cs] else [textOf cs, .str "", .str ""])

/-- The lines of a text, with their ends if `keep` is set. -/
def linesOf (keep : Bool) (line : List Char) : List Char → List (List Char)
  | [] => if line.isEmpty then [] else [line.reverse]
  | '\r' :: '\n' :: rest =>
    (line.reverse ++ (if keep then ['\r', '\n'] else [])) :: linesOf keep [] rest
  | c :: rest =>
    if Text.isLineBreak c then (line.reverse ++ (if keep then [c] else [])) :: linesOf keep [] rest
    else linesOf keep (c :: line) rest

def encoded (s : String) (encoding : String) : Act Value := do
  match (Text.lower encoding).toList.filter fun c => c ≠ '-' && c ≠ '_' with
  | ['u', 't', 'f', '8'] => return .bytes s.toUTF8.toList
  | ['a', 's', 'c', 'i', 'i'] | ['u', 's', 'a', 's', 'c', 'i', 'i'] => upTo 128 "ascii"
  | ['l', 'a', 't', 'i', 'n', '1'] | ['i', 's', 'o', '8', '8', '5', '9', '1'] => upTo 256 "latin-1"
  | _ => raise "LookupError" ("unknown encoding: " ++ encoding)
where
  /-- The code points as bytes, which have to lie below a limit. -/
  upTo (limit : Nat) (name : String) : Act Value :=
    match s.toList.zipIdx.find? fun p => limit ≤ p.1.toNat with
    | none => return .bytes (s.toList.map fun c => c.toNat.toUInt8)
    | some (c, i) =>
      let written := String.ofList ((Text.quote (String.singleton c)).toList.drop 1).dropLast
      let shown := if c.toNat < 256 then "\\x" ++ Text.hex 2 c.toNat
        else if c.toNat < 65536 then "\\u" ++ Text.hex 4 c.toNat
        else if written.startsWith "\\U" then written else "\\U" ++ Text.hex 8 c.toNat
      raise "UnicodeEncodeError" ("'" ++ name ++ "' codec can't encode character '" ++ shown ++
        "' in position " ++ toString i ++ ": ordinal not in range(" ++ toString limit ++ ")")

variable (c : Calls)

def ofText (s name : String) (args : List Value) (named : Arity.Named) : Act Value := do
  let cs := s.toList
  let what := "str." ++ name
  let nothing (v : Value) : Act Value := do
    Arity.none what args named
    return v
  let searched (most : Nat) : Act Unit := do
    Arity.noNames what named
    if args.isEmpty then
      typeError (name ++ "() takes at least 1 argument (0 given)")
    else if most < args.length then
      typeError (name ++ "() takes at most " ++ toString most ++ " arguments (" ++
        toString args.length ++ " given)")
    else return
  match name with
  | "upper" => nothing (.str (Text.upper s))
  | "lower" => nothing (.str (Text.lower s))
  | "casefold" => nothing (.str (Text.lower s))
  | "capitalize" =>
    nothing (textOf (match cs with
      | [] => []
      | c :: rest => Text.upperChar c ++ (Text.lower (String.ofList rest)).toList))
  | "title" => nothing (textOf (titled true cs))
  | "swapcase" =>
    nothing (textOf (cs.flatMap fun c => if isLarge c then Text.lowerChar c else Text.upperChar c))
  | "isdigit" | "isdecimal" | "isnumeric" =>
    nothing (every (fun c => (Text.digitValue? c).isSome) cs)
  | "isalpha" => nothing (every isLetter cs)
  | "isalnum" => nothing (every (fun c => Text.isWord c && c ≠ '_') cs)
  | "isspace" => nothing (every Text.isBlank cs)
  | "isascii" => nothing (.bool (cs.all (·.toNat < 128)))
  | "isprintable" => nothing (.bool (cs.all Text.isPrintable))
  | "isidentifier" =>
    nothing (.bool (match cs with
      | [] => false
      | c :: rest => Text.isIdentifierStart c && rest.all Text.isIdentifierPart))
  | "islower" => nothing (.bool (cs.any isSmall && !cs.any isLarge))
  | "isupper" => nothing (.bool (cs.any isLarge && !cs.any isSmall))
  | "strip" | "lstrip" | "rstrip" =>
    Arity.noNames what named
    Arity.between name 0 1 args []
    stripped name (name ≠ "rstrip") (name ≠ "lstrip") cs args
  | "split" | "rsplit" =>
    Arity.known name ["sep", "maxsplit"] named
    Arity.atMost name 2 args named
    splits (name = "rsplit") cs args named
  | "splitlines" =>
    Arity.known name ["keepends"] named
    Arity.atMost name 1 args named
    let keep ← match Arity.pick args named 0 "keepends" with
      | some v => do pure (decide ((← Arity.whole v) ≠ 0))
      | none => pure false
    make (.list ((linesOf keep [] cs).map textOf))
  | "join" =>
    let v ← Arity.one what args named
    if ← look (Iterate.isIterable · v) then
      let items ← Iterate.itemsOf c v
      let pieces ← joinable 0 items
      return textOf (Text.joinWith cs pieces)
    else typeError "can only join an iterable"
  | "replace" =>
    Arity.noNames what named
    Arity.between name 2 3 args []
    let wanted (i : Nat) := wantPlainText (fun type =>
      "replace() argument " ++ toString i ++ " must be str, not " ++ type) (args.getD (i - 1) .none)
    let old ← wanted 1
    let new ← wanted 2
    let limit ← splitLimit cs args[2]?
    return textOf (Text.replace old new limit cs)
  | "startswith" =>
    searched 3
    bounded name (fun p part => p.isPrefixOf part) cs args
  | "endswith" =>
    searched 3
    bounded name (fun p part => p.isSuffixOf part) cs args
  | "find" | "rfind" =>
    searched 3
    match ← search (name = "rfind") cs args with
    | some n => return .int n
    | none => return .int (-1)
  | "index" | "rindex" =>
    searched 3
    match ← search (name = "rindex") cs args with
    | some n => return .int n
    | none => valueError "substring not found"
  | "count" =>
    searched 3
    let (_, part) ← window cs args[1]? args[2]?
    let piece ← wantText (fun type => "must be str, not " ++ type) (args.headD .none)
    return .int (if startsInside cs args[1]? then Text.occurrences piece part else 0)
  | "partition" => partitioned false cs (← Arity.one what args named)
  | "rpartition" => partitioned true cs (← Arity.one what args named)
  | "removeprefix" =>
    let v ← Arity.one what args named
    let piece ← wantPlainText (fun type => "removeprefix() argument must be str, not " ++ type) v
    return textOf ((Text.after? piece cs).getD cs)
  | "removesuffix" =>
    let v ← Arity.one what args named
    let piece ← wantPlainText (fun type => "removesuffix() argument must be str, not " ++ type) v
    return textOf (((Text.after? piece.reverse cs.reverse).map List.reverse).getD cs)
  | "zfill" =>
    let width ← Arity.whole (← Arity.one what args named)
    let zeros := List.replicate (width.toNat - cs.length) '0'
    return textOf (match cs with
      | '+' :: rest => '+' :: zeros ++ rest
      | '-' :: rest => '-' :: zeros ++ rest
      | cs => zeros ++ cs)
  | "center" | "ljust" | "rjust" =>
    Arity.noNames what named
    Arity.between name 1 2 args []
    aligned (if name = "center" then '^' else if name = "ljust" then '<' else '>') cs args
  | "encode" =>
    let e ← wantPlainText (fun type => "encode() argument 'encoding' must be str, not " ++ type)
      ((Arity.pick args named 0 "encoding").getD (.str "utf-8"))
    encoded s (String.ofList e)
  | _ => raise "AttributeError" ("'str' object has no attribute '" ++ name ++ "'")

def bytesNames : List String := ["decode", "hex"]

def ofBytes (bs : List UInt8) (name : String) (args : List Value) (named : Arity.Named) : Act Value := do
  match name with
  | "hex" =>
    Arity.none "bytes.hex" args named
    return .str (String.join (bs.map fun b => Text.hex 2 b.toNat))
  | _ =>
    match (String.fromUTF8? (ByteArray.mk bs.toArray)) with
    | some s => return .str s
    | none => raise "UnicodeDecodeError" "'utf-8' codec can't decode bytes"

end Userscript.Machine.Method
