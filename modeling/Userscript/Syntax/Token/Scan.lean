import Userscript.Syntax.Token
import Userscript.Syntax.Token.Number
import Userscript.Text.Identifier
import Userscript.Text.Printable

/-!
# Userscript.Syntax.Token.Scan

A source cut into tokens.

Lines end with a line feed; a carriage return, alone or before a line feed, counts as one. The blanks
at the start of a line are compared with those of the lines before it to open and close blocks, with
tabs counted up to the next multiple of eight; counting each tab as one blank has to give the same
answer. Inside brackets, and after a backslash, line ends do not count.
-/

namespace Userscript.Syntax

/-- A source with all line ends as line feeds, and one at the end. -/
def withLineFeeds : List Char → List Char
  | [] => []
  | '\r' :: '\n' :: rest => '\n' :: withLineFeeds rest
  | '\r' :: rest => '\n' :: withLineFeeds rest
  | c :: rest => c :: withLineFeeds rest

/-- A source that ends with a line feed. -/
def withLastLine (cs : List Char) : List Char :=
  if cs.getLast? = some '\n' then cs else cs ++ ['\n']

def bracketLimit : Nat := 200

def blockLimit : Nat := 100

structure Scan where
  rest : List Char
  line : Nat
  /-- Whether a line starts here. -/
  fresh : Bool
  /-- Whether nothing but blanks was seen on the line. -/
  blank : Bool
  /-- The indentation of the open blocks, innermost first: with tabs to eight, and with tabs as one. -/
  blocks : List (Nat × Nat)
  /-- The open brackets and their lines, innermost first. -/
  brackets : List (Char × Nat)
  out : Array Token

namespace Scan

/-- How a step of the cutting ends. -/
inductive Next where
  | more (s : Scan)
  | stop (s : Scan) (why : Stop)

/-- The line that a character starts, if one follows a line feed. -/
def lineAfter (line : Nat) (rest : List Char) : Nat := if rest.isEmpty then line else line + 1

/-- Adds a token that starts on a line. -/
def push (s : Scan) (kind : TokenKind) (text : String) (line : Nat) : Scan :=
  { s with out := s.out.push ⟨kind, text, line, s.brackets.length⟩ }

structure Indent where
  wide : Nat
  narrow : Nat
  line : Nat
  rest : List Char

/-- The indentation of a line. Of a line that backslashes join from several, the first part that has
blanks counts. -/
def indentFrom (wide narrow joined line : Nat) : List Char → Except Stop Indent
  | ' ' :: rest => indentFrom (wide + 1) (narrow + 1) joined line rest
  | '\t' :: rest => indentFrom ((wide / 8 + 1) * 8) (narrow + 1) joined line rest
  | '\x0c' :: rest => indentFrom 0 0 joined line rest
  | '\\' :: '\n' :: rest =>
    if rest.isEmpty then .error (.unfinished line)
    else indentFrom wide narrow (if joined = 0 then wide else joined) (line + 1) rest
  | '\\' :: _ => .error (.blocked line)
  | rest => .ok ⟨if joined = 0 then wide else joined, if joined = 0 then narrow else joined, line, rest⟩

/-- Closes the blocks that are indented more than a line. -/
def closeBlocks (i : Indent) (s : Scan) : List (Nat × Nat) → Scan
  | [] => { s with blocks := [] }
  | (wide, narrow) :: outer =>
    if i.wide < wide then
      closeBlocks i (s.push .dedent "" i.line) outer
    else { s with blocks := (wide, narrow) :: outer }

/-- Compares the indentation of a line with that of the open blocks. -/
def indented (s : Scan) (i : Indent) : Next :=
  let (wide, narrow) := s.blocks.headD (0, 0)
  if i.wide = wide then
    if i.narrow = narrow then .more s else .stop s (.blocked i.line)
  else if wide < i.wide then
    if blockLimit ≤ s.blocks.length + 1 then .stop s (.blocked i.line)
    else if i.narrow ≤ narrow then .stop s (.blocked i.line)
    else .more ({ s with blocks := (i.wide, i.narrow) :: s.blocks }.push .indent "" i.line)
  else
    let closed := closeBlocks i s s.blocks
    if closed.blocks.headD (0, 0) = (i.wide, i.narrow) then .more closed
    else .stop s (.blocked i.line)

/-- Starts a line. Lines of blanks and comments do not count. -/
def startLine (s : Scan) : Next :=
  match indentFrom 0 0 0 s.line s.rest with
  | .error why => .stop s why
  | .ok i =>
    let blank := i.rest.head? = some '#' || i.rest.head? = some '\n'
    let s := { s with rest := i.rest, line := i.line, fresh := false, blank := blank }
    if blank || !s.brackets.isEmpty then .more s else indented s i

/-- What follows the text that a quote opened, and how many line feeds were passed; `out` is what was
passed, last first. -/
def endOfText (quote : Char) (long : Bool) (feeds : Nat) (out : List Char) :
    List Char → Option (List Char × List Char × Nat)
  | [] => none
  | ['\\'] => none
  | '\\' :: c :: rest =>
    endOfText quote long (if c = '\n' then feeds + 1 else feeds) (c :: '\\' :: out) rest
  | c :: rest =>
    if c = quote then
      if !long then some (c :: out, rest, feeds)
      else match rest with
        | a :: b :: more =>
          if a = quote && b = quote then some (b :: a :: c :: out, more, feeds)
          else endOfText quote long feeds (c :: out) rest
        | _ => endOfText quote long feeds (c :: out) rest
    else if c = '\n' then
      if long then endOfText quote long (feeds + 1) (c :: out) rest else none
    else endOfText quote long feeds (c :: out) rest

/-- A text from its first quote on; `out` is what was passed, last first. -/
def text (s : Scan) (out : List Char) (quote : Char) (rest : List Char) : Next :=
  let body : Option (List Char × List Char × Nat) :=
    match rest with
    | a :: b :: more =>
      if a = quote && b = quote then endOfText quote true 0 (b :: a :: quote :: out) more
      else if a = quote then some (a :: quote :: out, b :: more, 0)
      else endOfText quote false 0 (quote :: out) rest
    | _ => endOfText quote false 0 (quote :: out) rest
  match body with
  | none => .stop s (.broken s.line)
  | some (out, rest, feeds) =>
    let s₁ := s.push .text (String.ofList out.reverse) s.line
    .more { s₁ with rest := rest, line := s.line + feeds }

/-- Whether letters may stand before a text: `b`, `f` and `r` with one another, but not `b` with `f`, or
`u` alone. -/
def isTextMark (letters : List Char) : Bool :=
  let low := letters.map Char.toLower
  [[], ['b'], ['f'], ['r'], ['u'], ['b', 'r'], ['r', 'b'], ['f', 'r'], ['r', 'f']].contains low

def isIdentifier (cs : List Char) : Bool :=
  match cs with
  | c :: rest => Text.isIdentifierStart c && rest.all Text.isIdentifierPart
  | [] => false

/-- A name or keyword, or a text with letters before it. -/
def word (s : Scan) : Next :=
  let letters := s.rest.takeWhile mayContinueName
  let rest := s.rest.drop letters.length
  let quote? := match rest with
    | c :: _ => if (c = '"' || c = '\'') && isTextMark letters then some c else none
    | [] => none
  match quote? with
  | some quote => text s letters.reverse quote (rest.drop 1)
  | none =>
    if letters.any (128 ≤ ·.toNat) && !isIdentifier letters then .stop s (.broken s.line)
    else
      let w := String.ofList letters
      let kind := if keywords.contains w then TokenKind.keyword else .name
      .more { s.push kind w s.line with rest := rest }

/-- The closing bracket of an opening one. -/
def closing (c : Char) : Char :=
  if c = '(' then ')' else if c = '[' then ']' else if c = '\x7b' then '\x7d' else c

/-- An operator, a bracket, or a character that has no place in a script. -/
def operator (s : Scan) (c : Char) (rest : List Char) : Next :=
  let long := String.ofList (s.rest.take 3)
  let two := String.ofList (s.rest.take 2)
  if operators3.contains long then .more { s.push .operator long s.line with rest := s.rest.drop 3 }
  else if operators2.contains two then
    .more { s.push .operator two s.line with rest := s.rest.drop 2 }
  else
    let one := String.singleton c
    if c = '(' || c = '[' || c = '\x7b' then
      if bracketLimit ≤ s.brackets.length then .stop s (.broken s.line)
      else
        let s := { s with brackets := (c, s.line) :: s.brackets }
        .more { s.push .operator one s.line with rest := rest }
    else if c = ')' || c = ']' || c = '\x7d' then
      match s.brackets with
      | [] => .stop s (.broken s.line)
      | (opening, _) :: outer =>
        if closing opening = c then
          let s := { s with brackets := outer }
          .more { s.push .operator one s.line with rest := rest }
        else .stop s (.broken s.line)
    else if Text.isPrintable c then .more { s.push .operator one s.line with rest := rest }
    else .stop s (.broken s.line)

/-- A line feed: the end of a statement, unless the line is blank or a bracket is open. -/
def lineFeed (s : Scan) (rest : List Char) : Next :=
  let s₁ := if s.blank || !s.brackets.isEmpty then s else s.push .newline "" s.line
  .more { s₁ with rest := rest, line := lineAfter s.line rest, fresh := true }

/-- The end of the source, which closes all blocks. -/
def finish (s : Scan) : Next :=
  if s.brackets.isEmpty then
    .stop (s.push .finish "" s.line) .complete
  else .stop s (.unfinished s.line)

/-- Cuts one token, or passes blanks. -/
def step (s : Scan) : Next :=
  if s.fresh then startLine s
  else match s.rest with
    | [] => finish s
    | c :: rest =>
      if c = ' ' || c = '\t' || c = '\x0c' then .more { s with rest := rest }
      else if c = '#' then .more { s with rest := s.rest.dropWhile (· ≠ '\n') }
      else if c = '\n' then lineFeed s rest
      else if c = '\\' then
        match rest with
        | '\n' :: more =>
          if more.isEmpty then .stop s (.unfinished s.line)
          else .more { s with rest := more, line := s.line + 1 }
        | _ => .stop s (.blocked s.line)
      else if c = '"' || c = '\'' then text s [] c rest
      else if c.isDigit || (c = '.' && rest.head?.any Char.isDigit) then
        match numberEnd? s.rest with
        | none => .stop s (.broken s.line)
        | some after =>
          let w := String.ofList (s.rest.take (s.rest.length - after.length))
          .more { s.push .number w s.line with rest := after }
      else if mayContinueName c then word s
      else operator s c rest

/-- Cuts tokens until nothing is left. -/
def run : Nat → Scan → Scan × Stop
  | 0, s => (s, .blocked s.line)
  | fuel + 1, s =>
    match step s with
    | .more s => run fuel s
    | .stop s why => (s, why)

end Scan

/-- The tokens, with a mark where the cutting stopped; its line is the one to blame. -/
def stopMark (s : Scan) : Stop → Array Token
  | .complete => s.out
  | .broken line | .blocked line => s.out.push ⟨.stopped, "", line, s.brackets.length⟩
  | .unfinished line =>
    s.out.push ⟨.stopped, "", (s.brackets.head?.map (·.2)).getD line, s.brackets.length⟩

/-- Cuts a source whose first line has the number `line`. -/
def tokensFrom (line : Nat) (source : List Char) : Tokens :=
  let cs := withLastLine (withLineFeeds source)
  let (s, why) := Scan.run (2 * cs.length + 2) {
    rest := cs, line := line, fresh := true, blank := false, blocks := [], brackets := [], out := #[] }
  ⟨stopMark s why, why, s.brackets.map (·.2)⟩

end Userscript.Syntax
