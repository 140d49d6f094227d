import Userscript.Machine.Attribute
import Userscript.Number.Numeral

/-!
# Userscript.Machine.Builtins

The functions that every script can use.
-/

namespace Userscript.Machine

namespace Builtins

open Act

variable (c : Calls)

/-- How many items a value has. -/
def length? (m : Memory) (v : Value) : Option Nat :=
  match v with
  | .str s => some s.length
  | .bytes bs => some bs.length
  | .tuple items => some items.length
  | .range a b step => some (rangeLength a b step)
  | .ref r =>
    match m.get? r with
    | some (.list items) => some items.length
    | some (.dict entries) => some entries.length
    | some (.set _ items) => some items.length
    | some (.view _ d) => some (Iterate.sizeOf m d)
    | _ => none
  | _ => none

/-- Whether an item is found that counts as true, or as false. -/
def seek (wanted : Bool) (it : Value) : Nat → Act Bool
  | 0 => fail .endless
  | fuel + 1 => do
    match ← c.next it with
    | none => return false
    | some v => if (← look (·.truthy v)) = wanted then return true else seek wanted it fuel

/-- Whether a value is of a type, or of one of several. -/
def isOf (what : String) (type : String) : Nat → Value → Act Bool
  | 0, _ => return false
  | fuel + 1, v =>
    match v with
    | .type t => return isKindOf type t
    | .tuple ts => firstOf fuel ts
    | _ => typeError (what ++ "() arg 2 must be a " ++
        (if what = "issubclass" then "class" else "type") ++ ", a tuple of " ++
        (if what = "issubclass" then "classes" else "types") ++ ", or a union")
where
  /-- Whether the value is of one of the types in a list. -/
  firstOf (fuel : Nat) : List Value → Act Bool
    | [] => return false
    | t :: rest => do if ← isOf what type fuel t then return true else firstOf fuel rest

/-- The greatest or least item: the first that no later one passes. -/
def extreme (op : Comparison) (m : Memory) (best : Value × Value) :
    List (Value × Value) → Except Refusal Value
  | [] => .ok best.2
  | p :: rest =>
    match m.order op p.1 best.1 with
    | .error e => .error e
    | .ok true => extreme op m p rest
    | .ok false => extreme op m best rest

/-- `max` and `min`. -/
def extremes (name : String) (op : Comparison) (args : List Value) (named : Arity.Named) : Act Value := do
  if args.isEmpty then typeError (name ++ " expected at least 1 argument, got 0")
  else
    Arity.known name ["key", "default"] named
    let items ← match args with
      | [v] => Iterate.itemsOf c v
      | vs => do
        if (Fields.get? "default" named).isSome then
          typeError ("Cannot specify a default for " ++ name ++ "() with multiple positional arguments")
        else pure vs
    let keys ← match Fields.get? "key" named with
      | some .none | none => pure items
      | some f => each (fun v => c.call f [v] []) items
    match keys.zip items, Fields.get? "default" named with
    | p :: rest, _ =>
      let r ← look (extreme op · p rest)
      lift r
    | [], some v => return v
    | [], none => valueError (name ++ "() arg is an empty sequence")

/-- The sum of items, from the left. -/
def total (start : Value) : List Value → Act Value
  | [] => return start
  | v :: rest => do
    let next ← Operate.binary .add start v
    total next rest

/-- A whole number rounded to tens, hundreds and so on, a half going to the even neighbour. -/
def roundInt (n : Int) (places : Int) : Int :=
  if 0 ≤ places then n
  else
    let unit := Nat.pow 10 (-places).toNat
    let m := Binary64.roundDiv n.natAbs unit * unit
    if n < 0 then -(m : Int) else m

def rounded (v : Value) (places : Value) : Act Value := do
  match v.numeric? with
  | none =>
    let type ← look (·.typeName v)
    typeError ("type " ++ type ++ " doesn't define __round__ method")
  | some (.int n) =>
    match places with
    | .none => return .int n
    | p => return .int (roundInt n (← Arity.whole p))
  | some (.num x) =>
    match places with
    | .none =>
      match x.round? with
      | some n => return .int n
      | none =>
        if x.isNaN then valueError "cannot convert float NaN to integer"
        else raise "OverflowError" "cannot convert float infinity to integer"
    | p =>
      let n ← Arity.whole p
      return .num (x.roundTo n)

/-- A power modulo a number, by squaring. -/
def powerMod (m : Int) : Nat → Int → Nat → Int → Int
  | 0, _, _, out => out
  | fuel + 1, base, n, out =>
    if n = 0 then out
    else powerMod m fuel (Int.fmod (base * base) m) (n / 2)
      (if n % 2 = 1 then Int.fmod (out * base) m else out)

/-- A number whose product with `a` leaves the greatest common divisor modulo `m`, and that divisor. -/
def inverseMod : Nat → Int → Int → Int → Int → Int × Int
  | 0, a, _, x, _ => (a, x)
  | fuel + 1, a, b, x, y =>
    if b = 0 then (a, x) else inverseMod fuel b (Int.fmod a b) y (x - Int.fdiv a b * y)

def modular (base e m : Int) : Act Value :=
  if m = 0 then valueError "pow() 3rd argument cannot be 0"
  else if 0 ≤ e then
    return .int (powerMod m (e.toNat + 1) (Int.fmod base m) e.toNat (Int.fmod 1 m))
  else
    let (g, x) := inverseMod (2 * (m.natAbs.log2 + base.natAbs.log2) + 8) (Int.fmod base m) m 1 0
    if g.natAbs ≠ 1 then valueError "base is not invertible for the given modulus"
    else
      return .int (powerMod m ((-e).toNat + 1) (Int.fmod (x * g) m) (-e).toNat (Int.fmod 1 m))

/-- The number by which a value is found among keys. -/
def hashed (n : Int) : Int :=
  let h : Int := (n.natAbs % (Nat.pow 2 61 - 1) : Nat)
  let h := if n < 0 then -h else h
  if h = -1 then -2 else h

/-- The number by which a binary64 number is found among keys: that of an equal fraction. -/
def hashedNumber (x : Binary64) : Int :=
  match x.shape with
  | .nan => 0
  | .infinite negative => if negative then -314159 else 314159
  | .finite negative m e =>
    let (num, den) := Binary64.ratio negative m e
    let p : Nat := Nat.pow 2 61 - 1
    let (_, inverse) := inverseMod 200 (den % p : Nat) p 1 0
    let h : Int := ((num.natAbs % p * (Int.fmod inverse p).toNat) % p : Nat)
    let h := if num < 0 then -h else h
    if h = -1 then -2 else h

/-- `print`: the texts of the values with a text between them and one at the end. -/
def printed (args : List Value) (named : Arity.Named) : Act Value := do
  match named.find? fun p => p.1 ≠ "sep" && p.1 ≠ "end" with
  | some p =>
    typeError ("_script_print.<locals>.print() got an unexpected keyword argument '" ++ p.1 ++ "'")
  | none =>
    let pieces ← each (written Memory.display) args
    let joined ← match (Fields.get? "sep" named).getD (.str " ") with
      | .str s => pure (Value.str (String.intercalate s pieces))
      | sep => do
        let join ← Attribute.get sep "join"
        c.call join [.tuple (pieces.map .str)] []
    let whole ← Operate.binary .add joined ((Fields.get? "end" named).getD (.str ""))
    match whole with
    | .str text => fun m => .print text fun _ => .done (.ok .none, m)
    | _ => return .none

/-- An iterator that gives what is left of another, or the error that it is at its end. -/
def nextOf (it : Value) : Act (Except Value Value) := do
  let plain : Act (Except Value Value) := do
    match ← c.next it with
    | some v => return .ok v
    | none => return .error .none
  match it with
  | .ref r =>
    match ← look (·.get? r) with
    | some (.generator ..) =>
      match ← c.resume r (.send .none) with
      | .item v => return .ok v
      | .finished v => return .error v
    | _ => plain
  | _ => plain

/-- Raises that an iterator is at its end. -/
def exhausted {α : Type} (v : Value) : Act α :=
  raiseWith "StopIteration" (match v with
    | .none => []
    | v => [v])

def call (b : Builtin) (args : List Value) (named : Arity.Named) : Act Value := do
  let name := b.name
  match b with
  | .abs =>
    let v ← Arity.one name args named
    match v.numeric? with
    | some (.int n) => return .int n.natAbs
    | some (.num x) => return .num (if x.isNegative then x.neg else x)
    | none =>
      let type ← look (·.typeName v)
      typeError ("bad operand type for abs(): '" ++ type ++ "'")
  | .all =>
    let it ← Iterate.iteratorOf (← Arity.one name args named)
    return .bool (!(← seek c false it turns))
  | .any =>
    let it ← Iterate.iteratorOf (← Arity.one name args named)
    return .bool (← seek c true it turns)
  | .callable =>
    let v ← Arity.one name args named
    return .bool (← look (·.isCallable v))
  | .chr =>
    let n ← Arity.whole (← Arity.one name args named)
    if 0 ≤ n && n < 0x110000 then return .str (String.singleton (Char.ofNat n.toNat))
    else valueError "chr() arg not in range(0x110000)"
  | .divmod =>
    Arity.between name 2 2 args named
    let v := args.getD 0 .none
    let w := args.getD 1 .none
    match v.numeric?, w.numeric? with
    | some (.int a), some (.int b) =>
      if b = 0 then Operate.byZero "integer division or modulo by zero"
      else return .tuple [.int (Int.fdiv a b), .int (Int.fmod a b)]
    | some a, some b =>
      let x ← Operate.asNumber a
      let y ← Operate.asNumber b
      if y.isZero then Operate.byZero "float divmod()"
      else return .tuple [.num (x.floorDiv y), .num (x.rem y)]
    | _, _ => Operate.unsupported "divmod()" v w
  | .hash =>
    let v ← Arity.one name args named
    Item.checkKey v
    match v.numeric? with
    | some (.int n) => return .int (hashed n)
    | some (.num x) => return .int (hashedNumber x)
    | none => return .int 0
  | .isinstance =>
    Arity.between name 2 2 args named
    let type ← look (·.typeName (args.getD 0 .none))
    return .bool (← isOf name type openDepth (args.getD 1 .none))
  | .issubclass =>
    Arity.between name 2 2 args named
    match args.getD 0 .none with
    | .type t => return .bool (← isOf name t openDepth (args.getD 1 .none))
    | _ => typeError "issubclass() arg 1 must be a class"
  | .iter =>
    Arity.between name 1 2 args named
    match args with
    | [f, last] =>
      if ← look (·.isCallable f) then make (.iterator (.calls f last))
      else typeError "iter(v, w): v must be callable"
    | _ => Iterate.iteratorOf (args.getD 0 .none)
  | .len =>
    let v ← Arity.one name args named
    match ← look (length? · v) with
    | some n => return .int n
    | none =>
      let type ← look (·.typeName v)
      typeError ("object of type '" ++ type ++ "' has no len()")
  | .max => extremes c name .gt args named
  | .min => extremes c name .lt args named
  | .next =>
    Arity.between name 1 2 args named
    match ← nextOf c (args.getD 0 .none), args[1]? with
    | .ok v, _ => return v
    | .error _, some v => return v
    | .error v, none => exhausted v
  | .ord =>
    let v ← Arity.one name args named
    match v with
    | .str s =>
      match s.toList with
      | [ch] => return .int ch.toNat
      | cs => typeError ("ord() expected a character, but string of length " ++ toString cs.length ++ " found")
    | .bytes bs =>
      match bs with
      | [n] => return .int n.toNat
      | bs => typeError ("ord() expected a character, but string of length " ++ toString bs.length ++ " found")
    | v =>
      let type ← look (·.typeName v)
      typeError ("ord() expected string of length 1, but " ++ type ++ " found")
  | .pow =>
    let base? := Arity.pick args named 0 "base"
    let e? := Arity.pick args named 1 "exp"
    match base?, e?, (Arity.pick args named 2 "mod").getD .none with
    | some v, some w, .none => Operate.binary .pow v w
    | some v, some w, z =>
      match Operate.index? v, Operate.index? w, Operate.index? z with
      | some a, some b, some m => modular a b m
      | _, _, _ =>
        let isFraction (v : Value) : Bool := match v with
          | .num _ => true
          | _ => false
        if isFraction v || isFraction w || isFraction z then
          typeError "pow() 3rd argument not allowed unless all arguments are integers"
        else do
          let a ← look (·.typeName v)
          let b ← look (·.typeName w)
          let c ← look (·.typeName z)
          typeError ("unsupported operand type(s) for ** or pow(): '" ++ a ++ "', '" ++ b ++ "', '" ++ c ++ "'")
    | some _, none, _ => typeError "pow() missing required argument 'exp' (pos 2)"
    | none, _, _ => typeError "pow() missing required argument 'base' (pos 1)"
  | .print => printed c args named
  | .repr =>
    let v ← Arity.one name args named
    return .str (← written Memory.shown v)
  | .round =>
    Arity.atMost name 2 args named
    match Arity.pick args named 0 "number" with
      | some v => rounded v ((Arity.pick args named 1 "ndigits").getD .none)
      | none => typeError "round() missing required argument 'number' (pos 1)"
  | .sorted =>
    match args with
    | [v] =>
      let items ← Iterate.itemsOf c v
      Arity.known "sort" ["key", "reverse"] named
      let backwards ← match Fields.get? "reverse" named with
        | some v => look (·.truthy v)
        | none => pure false
      let sorted ← sortItems c (Fields.get? "key" named) backwards items
      make (.list sorted)
    | args => typeError ("sorted expected 1 argument, got " ++ toString args.length)
  | .sum =>
    match args with
    | [] => typeError "sum() takes at least 1 positional argument (0 given)"
    | v :: _ =>
      Arity.atMost name 2 args named
      if !(← look (Iterate.isIterable · v)) then Iterate.notIterable v
      match (Arity.pick args named 1 "start").getD (.int 0) with
      | .str _ => typeError "sum() can't sum strings [use ''.join(seq) instead]"
      | .bytes _ => typeError "sum() can't sum bytes [use b''.join(seq) instead]"
      | start =>
        let items ← Iterate.itemsOf c v
        total start items

end Builtins
end Userscript.Machine
