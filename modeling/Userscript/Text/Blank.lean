/-!
# Userscript.Text.Blank

White space and line breaks of text.

* `isBlank` is white space in the sense of Unicode text processing: it takes in the information
  separators U+001C to U+001F, the next-line control and the no-break space, but neither the
  zero-width space nor the byte order mark.
* `trim` removes blanks at both ends.
* `lines` cuts text at line breaks; a carriage return and a line feed together are one break, and a
  break that ends the text opens no further line.
-/

namespace Userscript.Text

def isBlank (c : Char) : Bool :=
  let n := c.toNat
  (9 ≤ n && n ≤ 13) || (28 ≤ n && n ≤ 32) || n == 0x85 || n == 0xA0 || n == 0x1680 ||
  (0x2000 ≤ n && n ≤ 0x200A) || n == 0x2028 || n == 0x2029 || n == 0x202F || n == 0x205F ||
  n == 0x3000

def trimLeft (cs : List Char) : List Char :=
  cs.dropWhile isBlank

def trimRight (cs : List Char) : List Char :=
  (cs.reverse.dropWhile isBlank).reverse

/-- The text without blanks at its ends. -/
def trim (s : String) : String :=
  String.ofList (trimRight (trimLeft s.toList))

def isLineBreak (c : Char) : Bool :=
  let n := c.toNat
  (10 ≤ n && n ≤ 13) || (28 ≤ n && n ≤ 30) || n == 0x85 || n == 0x2028 || n == 0x2029

/-- The lines of a text, with `line` the characters of the current line (last first) and `done` the
lines before it. -/
def linesFrom (done : Array String) (line : List Char) : List Char → Array String
  | [] => if line.isEmpty then done else done.push (String.ofList line.reverse)
  | '\r' :: '\n' :: rest => linesFrom (done.push (String.ofList line.reverse)) [] rest
  | c :: rest =>
    if isLineBreak c then linesFrom (done.push (String.ofList line.reverse)) [] rest
    else linesFrom done (c :: line) rest

/-- The lines of a text, without their line breaks. -/
def lines (s : String) : List String :=
  (linesFrom #[] [] s.toList).toList

end Userscript.Text
