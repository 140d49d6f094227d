import Userscript.Machine.Value

/-!
# Userscript.Machine.Kinds

The types of values, by their names.

* `Memory.typeName` is the name of a value's type;
* `isKindOf` tells whether one type is another or lies below it.
-/

namespace Userscript.Machine

/-- The kinds of errors, each with the kind directly above it. -/
def errorParents : List (String × String) := [
  ("ArithmeticError", "Exception"), ("AssertionError", "Exception"), ("AttributeError", "Exception"),
  ("LookupError", "Exception"), ("NameError", "Exception"), ("RuntimeError", "Exception"),
  ("StopIteration", "Exception"), ("TypeError", "Exception"), ("ValueError", "Exception"),
  ("IndexError", "LookupError"), ("KeyError", "LookupError"),
  ("NotImplementedError", "RuntimeError"), ("RecursionError", "RuntimeError"),
  ("ZeroDivisionError", "ArithmeticError"), ("OverflowError", "ArithmeticError"),
  ("UnboundLocalError", "NameError"), ("UnicodeError", "ValueError"),
  ("UnicodeDecodeError", "UnicodeError"), ("UnicodeEncodeError", "UnicodeError"),
  ("MemoryError", "Exception"), ("GeneratorExit", "BaseException"), ("Exception", "BaseException")]

/-- The kinds of error that come from the network. -/
def networkErrors : List String := [
  "ConnectError", "ReadError", "WriteError", "CloseError", "NetworkError", "ConnectTimeout",
  "ReadTimeout", "WriteTimeout", "PoolTimeout", "TimeoutException", "LocalProtocolError",
  "RemoteProtocolError", "ProtocolError", "ProxyError", "UnsupportedProtocol", "TransportError",
  "DecodingError", "TooManyRedirects", "RequestError", "HTTPStatusError", "HTTPError"]

def requestErrors : List String := networkErrors ++ ["InvalidURL", "CookieConflict"]

def parent? (type : String) : Option String :=
  if type = "bool" then some "int"
  else if type = "BaseException" then none
  else match errorParents.find? (·.1 = type) with
    | some p => some p.2
    | none => if requestErrors.contains type then some "Exception" else none

/-- The longest way up from a type. -/
def kindDepth : Nat := 8

/-- Whether a type is another or lies below it, going up as far as `fuel`. -/
def isBelow (above : String) : Nat → String → Bool
  | 0, type => type = above
  | fuel + 1, type =>
    type = above || match parent? type with
      | some p => isBelow above fuel p
      | none => false

/-- Whether a type is another or lies below it. -/
def isKindOf (type above : String) : Bool := isBelow above kindDepth type

/-- Kinds of errors that scripts can name. -/
def namedErrors : List String := [
  "Exception", "ArithmeticError", "AssertionError", "AttributeError", "IndexError", "KeyError",
  "LookupError", "NameError", "NotImplementedError", "RuntimeError", "StopIteration", "TypeError",
  "ValueError", "ZeroDivisionError"]

/-- Other types that scripts can name. -/
def namedTypes : List String := [
  "bool", "bytes", "dict", "float", "frozenset", "int", "list", "set", "str", "tuple", "enumerate",
  "filter", "map", "range", "reversed", "slice", "zip"]

def isErrorType (type : String) : Bool := isKindOf type "BaseException"

def Iterator.typeName : Iterator → String
  | .fixed type _ => type
  | .list .. => "list_iterator"
  | .back .. => "list_reverseiterator"
  | .entries .keys .. => "dict_keyiterator"
  | .entries .values .. => "dict_valueiterator"
  | .entries .items .. => "dict_itemiterator"
  | .members .. => "set_iterator"
  | .range .. => "range_iterator"
  | .enumerate .. => "enumerate"
  | .zip .. => "zip"
  | .map .. => "map"
  | .filter .. => "filter"
  | .calls .. => "callable_iterator"
  | .done type => type

/-- The name of the type of a view. -/
def Part.typeName : Part → String
  | .keys => "dict_keys"
  | .values => "dict_values"
  | .items => "dict_items"

def Object.typeName : Object → String
  | .list _ => "list"
  | .dict _ => "dict"
  | .set frozen _ => if frozen then "frozenset" else "set"
  | .function .. => "function"
  | .generator .. => "generator"
  | .iterator it => it.typeName
  | .view part _ => part.typeName
  | .error kind .. => kind
  | .style _ => "StyleNode"
  | .cell _ => "cell"
  | .waiting _ => "coroutine"

namespace Memory

/-- The name of the type of an object; one that is not there, or has no name, is an object like any other. -/
def nameOf (o : Option Object) : String :=
  let name := (o.map Object.typeName).getD ""
  if name = "" then "object" else name

def typeName (m : Memory) : Value → String
  | .none => "NoneType"
  | .ellipsis => "ellipsis"
  | .notImplemented => "NotImplementedType"
  | .bool _ => "bool"
  | .int _ => "int"
  | .num _ => "float"
  | .imaginary _ => "complex"
  | .str _ => "str"
  | .bytes _ => "bytes"
  | .tuple _ => "tuple"
  | .slice .. => "slice"
  | .range .. => "range"
  | .type _ => "type"
  | .builtin .print => "function"
  | .builtin _ => "builtin_function_or_method"
  | .method .. => "builtin_function_or_method"
  | .capability _ | .foreign _ => "function"
  | .ref r => nameOf (m.get? r)

def isError (m : Memory) : Value → Bool
  | .ref r =>
    match m.get? r with
    | some (.error ..) => true
    | _ => false
  | _ => false

def isCallable (m : Memory) : Value → Bool
  | .type _ | .builtin _ | .method .. | .capability _ | .foreign _ => true
  | .ref r =>
    match m.get? r with
    | some (.function ..) => true
    | _ => false
  | _ => false

end Memory
end Userscript.Machine
