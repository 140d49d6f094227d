/-!
# Userscript.Syntax.Token

The tokens of a script: names and keywords, numbers, texts, operators, and the ends of lines and of
indented blocks.
-/

namespace Userscript.Syntax

inductive TokenKind where
  | name
  | keyword
  | number
  | text
  | operator
  | newline
  | indent
  | dedent
  | finish
  /-- The source could not be cut any further. -/
  | stopped
deriving DecidableEq, Repr, Inhabited

/-- A token: its text as written, the line on which it starts, and how many brackets are open after
it. -/
structure Token where
  kind : TokenKind
  text : String
  line : Nat
  depth : Nat
deriving DecidableEq, Repr, Inhabited

/-- Whether a token is the operator or keyword written so. -/
def Token.isWord (t : Token) (w : String) : Bool :=
  (t.kind = .operator || t.kind = .keyword) && t.text = w

def keywords : List String := [
  "False", "None", "True", "and", "as", "assert", "async", "await", "break", "class", "continue",
  "def", "del", "elif", "else", "except", "finally", "for", "from", "global", "if", "import", "in",
  "is", "lambda", "nonlocal", "not", "or", "pass", "raise", "return", "try", "while", "with",
  "yield"]

def operators3 : List String := ["**=", "//=", ">>=", "<<=", "..."]

def operators2 : List String := [
  "!=", "%=", "&=", "**", "*=", "+=", "-=", "->", "//", "/=", ":=", "<<", "<=", "<>", "==", ">=",
  ">>", "@=", "^=", "|="]

/-- Why the source cannot be cut any further, as far as it matters for the line that is blamed. -/
inductive Stop where
  /-- It is cut to the end. -/
  | complete
  /-- A fault that counts whatever comes before it. -/
  | broken (line : Nat)
  /-- A fault that counts only if nothing before it is wrong. -/
  | blocked (line : Nat)
  /-- The source ends too early. -/
  | unfinished (line : Nat)
deriving DecidableEq, Repr

/-- A source cut into tokens. The brackets still open at the end are given by their lines, innermost
first. -/
structure Tokens where
  all : Array Token
  stop : Stop
  openLines : List Nat

end Userscript.Syntax
