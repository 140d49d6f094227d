import Userscript.Machine.Builtins

/-!
# Userscript.Machine.Construct

Values made by calling their types.
-/

namespace Userscript.Machine

namespace Construct

open Act

variable (c : Calls)

def atMostOne (name : String) (args : List Value) (named : Arity.Named) : Act (Option Value) := do
  Arity.between name 0 1 args named
  return args.head?

/-- All items of the only argument, if there is one. -/
def allItems (name : String) (args : List Value) (named : Arity.Named) : Act (List Value) := do
  match ← atMostOne name args named with
  | some v => Iterate.itemsOf c v
  | none => return []

/-- The integer that a text stands for in a base. -/
def readBase? (base : Nat) (s : String) : Option Int :=
  let (negative, cs) := Number.splitSign (Number.numeralBody s)
  let marks : List Char := if base = 16 then ['x', 'X'] else if base = 8 then ['o', 'O']
    else if base = 2 then ['b', 'B'] else []
  let cs := match cs with
    | '0' :: m :: rest => if marks.contains m then rest else cs
    | cs => cs
  let cs := cs.filter (· ≠ '_')
  let digit? (ch : Char) : Option Nat :=
    let n := if ch.isDigit then ch.toNat - 48
      else if ch.isLower then ch.toNat - 87
      else if ch.isUpper then ch.toNat - 55 else 99
    if n < base then some n else none
  if cs.isEmpty then none
  else (cs.mapM digit?).map fun ds =>
    let n : Nat := ds.foldl (fun n d => n * base + d) 0
    if negative then -(n : Int) else n

def int (args : List Value) (named : Arity.Named) : Act Value := do
  match named.find? fun p => p.1 ≠ "base" with
  | some p => typeError ("'" ++ p.1 ++ "' is an invalid keyword argument for int()")
  | none =>
    Arity.atMost "int" 2 args named
    match args, Arity.pick args named 1 "base" with
    | [], none => return .int 0
    | [], some _ => typeError "int() missing string argument"
    | v :: _, some base =>
      let n ← Arity.whole base
      if n ≠ 0 && (n < 2 || 36 < n) then valueError "int() base must be >= 2 and <= 36, or 0"
      else match v with
      | .str s =>
        if n = 10 then
          match Number.readInt s with
          | .ok k => return .int k
          | .error e => valueError e.message
        else match readBase? n.toNat s with
          | some k => return .int k
          | none => valueError ("invalid literal for int() with base " ++ toString n ++ ": " ++ Text.quote s)
      | _ => typeError "int() can't convert non-string with explicit base"
    | v :: _, none =>
      match v with
      | .str s =>
        match Number.readInt s with
        | .ok k => return .int k
        | .error e => valueError e.message
      | .bytes bs =>
        match (String.fromUTF8? (ByteArray.mk bs.toArray)).map Number.readInt with
        | some (.ok k) => return .int k
        | _ => valueError ("invalid literal for int() with base 10: " ++ Text.quoteBytes bs)
      | .num x =>
        match x.trunc? with
        | some k => return .int k
        | none =>
          if x.isNaN then valueError "cannot convert float NaN to integer"
          else raise "OverflowError" "cannot convert float infinity to integer"
      | v =>
        match Operate.index? v with
        | some k => return .int k
        | none =>
          let type ← look (·.typeName v)
          typeError ("int() argument must be a string, a bytes-like object or a real number, not '" ++
            type ++ "'")

def float (args : List Value) (named : Arity.Named) : Act Value := do
  match ← atMostOne "float" args named with
  | none => return .num (Binary64.zero false)
  | some (.str s) =>
    match Number.readDecimal? s with
    | some x => return .num x
    | none => valueError ("could not convert string to float: " ++ Text.quote s)
  | some v =>
    match v.numeric? with
    | some n => return .num (← Operate.asNumber n)
    | none =>
      let type ← look (·.typeName v)
      typeError ("float() argument must be a string or a real number, not '" ++ type ++ "'")

def str (args : List Value) (named : Arity.Named) : Act Value := do
  match Arity.pick args named 0 "object", Arity.pick args named 1 "encoding" with
  | none, _ => return .str ""
  | some v, none => return .str (← written Memory.display v)
  | some v, some (.str _) =>
    match v with
    | .bytes bs => Method.ofBytes bs "decode" [] []
    | .str _ => typeError "decoding str is not supported"
    | v =>
      let type ← look (·.typeName v)
      typeError ("decoding to str: need a bytes-like object, " ++ type ++ " found")
  | some _, some e =>
    let type ← match e with
      | .none => pure "None"
      | e => look (·.typeName e)
    typeError ("str() argument 'encoding' must be str, not " ++ type)

def byteOf (v : Value) : Act UInt8 := do
  let n ← Arity.whole v
  if 0 ≤ n && n < 256 then return n.toNat.toUInt8 else valueError "bytes must be in range(0, 256)"

def bytes (args : List Value) (named : Arity.Named) : Act Value := do
  match Arity.pick args named 0 "source", Arity.pick args named 1 "encoding" with
  | none, _ => return .bytes []
  | some (.str s), some (.str e) => Method.encoded s e
  | some (.str _), _ => typeError "string argument without an encoding"
  | some v, _ =>
    match Operate.index? v with
    | some n => if n < 0 then valueError "negative count" else return .bytes (List.replicate n.toNat 0)
    | none =>
      let items ← if ← look (Iterate.isIterable · v) then Iterate.itemsOf c v
        else do
          let type ← look (·.typeName v)
          typeError ("cannot convert '" ++ type ++ "' object to bytes")
      let bs ← each byteOf items
      return .bytes bs

def range (args : List Value) (named : Arity.Named) : Act Value := do
  Arity.between "range" 1 3 args named
  match args with
  | [stop] => return .range 0 (← Arity.whole stop) 1
  | [start, stop] => return .range (← Arity.whole start) (← Arity.whole stop) 1
  | _ =>
    let start ← Arity.whole (args.getD 0 .none)
    let stop ← Arity.whole (args.getD 1 .none)
    let step ← Arity.whole (args.getD 2 .none)
    if step = 0 then valueError "range() arg 3 must not be zero" else return .range start stop step

/-- An iterator backwards. -/
def reversed (v : Value) : Act Value := do
  let refuse : Act Value := do
    let type ← look (·.typeName v)
    typeError ("'" ++ type ++ "' object is not reversible")
  let m ← look id
  let fixed (type : String) (items : List Value) : Act Value :=
    make (.iterator (.fixed type items.reverse))
  let items := (Iterate.directItems? m v).getD []
  match v with
  | .str _ | .bytes _ | .tuple _ => fixed "reversed" items
  | .range .. => fixed "range_iterator" items
  | .ref r =>
    match m.get? r with
    | some (.list items) => make (.iterator (.back r items.length))
    | some (.dict _) => fixed "dict_reversekeyiterator" items
    | some (.view .keys _) => fixed "dict_reversekeyiterator" items
    | some (.view .values _) => fixed "dict_reversevalueiterator" items
    | some (.view .items _) => fixed "dict_reverseitemiterator" items
    | _ => refuse
  | _ => refuse

def call (type : String) (args : List Value) (named : Arity.Named) : Act Value := do
  match type with
  | "bool" =>
    match ← atMostOne type args named with
    | some v => return .bool (← look (·.truthy v))
    | none => return .bool false
  | "int" => int args named
  | "float" => float args named
  | "str" => str args named
  | "bytes" => bytes c args named
  | "list" => do make (.list (← allItems c type args named))
  | "tuple" => return .tuple (← allItems c type args named)
  | "set" => do
    let items ← allItems c type args named
    make (.set false (← Method.membersFrom items))
  | "frozenset" => do
    let items ← allItems c type args named
    make (.set true (← Method.membersFrom items))
  | "dict" => do make (.dict (← Method.gatherEntries c "dict" [] args named))
  | "range" => range args named
  | "slice" =>
    Arity.between type 1 3 args named
    match args with
    | [b] => return .slice .none b .none
    | _ => return .slice (args.getD 0 .none) (args.getD 1 .none) (args.getD 2 .none)
  | "enumerate" =>
    Arity.atMost type 2 args named
    match Arity.pick args named 0 "iterable" with
    | none => typeError "enumerate() missing required argument 'iterable'"
    | some v =>
      let start ← match Arity.pick args named 1 "start" with
        | some n => Arity.whole n
        | none => pure 0
      make (.iterator (.enumerate (← Iterate.iteratorOf v) start))
  | "zip" =>
    match named.find? fun p => p.1 ≠ "strict" with
    | some p => typeError ("zip() got an unexpected keyword argument '" ++ p.1 ++ "'")
    | none =>
      let strict ← match Fields.get? "strict" named with
        | some v => look (·.truthy v)
        | none => pure false
      let its ← each Iterate.iteratorOf args
      make (.iterator (.zip its strict))
  | "map" =>
    Arity.noNames type named
    match args with
    | f :: v :: more =>
      let its ← each Iterate.iteratorOf (v :: more)
      make (.iterator (.map f its))
    | _ => typeError "map() must have at least two arguments."
  | "filter" =>
    Arity.between type 2 2 args named
    make (.iterator (.filter (args.getD 0 .none) (← Iterate.iteratorOf (args.getD 1 .none))))
  | "reversed" =>
    Arity.between type 1 1 args named
    reversed (args.getD 0 .none)
  | kind =>
    if named.isEmpty || isKindOf kind "NameError" || isKindOf kind "AttributeError" then
      make (.error kind args named)
    else typeError (kind ++ "() takes no keyword arguments")

end Construct
end Userscript.Machine
