import Userscript.Text.Blank

/-!
# Userscript.Proxy.Cookies

The cookies that a request carries, read from its header.

Pairs are cut at semicolons. A value may stand in quotes, in which a backslash takes the next character as it is;
whatever follows the closing quote directly is skipped. Of cookies with one name the first counts.
-/

namespace Userscript.Proxy.Cookies

/-- A value up to its closing quote, and what follows that; `out` is what was read, last first. -/
def quoted (out : List Char) : List Char → List Char × List Char
  | [] => (out.reverse, [])
  | '"' :: rest => (out.reverse, rest)
  | ['\\'] => (out.reverse, [])
  | '\\' :: c :: rest => quoted (c :: out) rest
  | c :: rest => quoted (c :: out) rest

def value : List Char → List Char × List Char
  | '"' :: rest => quoted [] rest
  | cs => (cs.takeWhile (· ≠ ';'), cs.dropWhile (· ≠ ';'))

/-- The pairs at the front, as many as the fuel allows. -/
def pairsFrom : Nat → List Char → List (String × String)
  | 0, _ => []
  | _ + 1, [] => []
  | fuel + 1, cs =>
    let isEnd (c : Char) : Bool := c = ';' || c = '='
    let name := String.ofList (Text.trimLeft (cs.takeWhile fun c => !isEnd c))
    let (v, rest) := match cs.dropWhile fun c => !isEnd c with
      | '=' :: rest => value rest
      | rest => ([], rest)
    let more := pairsFrom fuel (rest.drop 1)
    if name = "" && v.isEmpty then more else (name, String.ofList v) :: more

def pairs (header : String) : List (String × String) :=
  pairsFrom (header.length + 1) header.toList

/-- The pairs with names that none before them has. -/
def firsts (seen : List String) : List (String × String) → List (String × String)
  | [] => []
  | (k, v) :: rest => if seen.contains k then firsts seen rest else (k, v) :: firsts (k :: seen) rest

def ofHeader (header : String) : List (String × String) := firsts [] (pairs header)

end Userscript.Proxy.Cookies
