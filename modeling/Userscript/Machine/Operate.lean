import Userscript.Machine.Dialogue
import Userscript.Machine.Format

/-!
# Userscript.Machine.Operate

The operators: arithmetic on numbers, joining and repeating of texts and lists, sets, and the filling in of
texts.

Whole numbers are exact; a quotient, or a mixture with a binary64 number, is the nearest binary64 number.
Division rounds down, and the remainder has the sign of the divisor.

`Act.written` stands before them: the text of a value, which is an error if an integer in it is too long.
-/

namespace Userscript.Machine

def Act.written (text : Memory → Value → String) (v : Value) : Act String := do
  lift ((← look id).written text v)

namespace Operate

open Act

/-- Raises that an operator is not for two values. -/
def unsupported {α : Type} (sign : String) (v w : Value) : Act α := do
  let a ← look (·.typeName v)
  let b ← look (·.typeName w)
  let name := if sign = "**" then "** or pow()" else sign
  typeError ("unsupported operand type(s) for " ++ name ++ ": '" ++ a ++ "' and '" ++ b ++ "'")

def byZero {α : Type} (text : String) : Act α := raise "ZeroDivisionError" text

def widen (n : Int) : Act Binary64 :=
  match Binary64.ofInt? n with
  | some x => return x
  | none => raise "OverflowError" "int too large to convert to float"

def asNumber : Numeric → Act Binary64
  | .int n => widen n
  | .num x => return x

/-- The bitwise operator on the two's complements of integers that is `f` on naturals for each choice of
signs. -/
def bits (both one other neither : Nat → Nat → Int) (a b : Int) : Int :=
  let flip (n : Int) : Nat := (-n - 1).toNat
  if 0 ≤ a then (if 0 ≤ b then both a.toNat b.toNat else one a.toNat (flip b))
  else (if 0 ≤ b then other (flip a) b.toNat else neither (flip a) (flip b))

/-- The bits of `a` that `b` has not. -/
def without (a b : Nat) : Nat := a ^^^ (a &&& b)

/-- The integer whose complement is a natural. -/
def complement (n : Nat) : Int := -(n : Int) - 1

def bitAnd : Int → Int → Int :=
  bits (fun a b => (a &&& b : Nat)) (fun a b => (without a b : Nat))
    (fun a b => (without b a : Nat)) (fun a b => complement (a ||| b))

def bitOr : Int → Int → Int :=
  bits (fun a b => (a ||| b : Nat)) (fun a b => complement (without b a))
    (fun a b => complement (without a b)) (fun a b => complement (a &&& b))

/-- The bits of one but not of both. -/
def bitXor : Int → Int → Int :=
  bits (fun a b => (a ^^^ b : Nat)) (fun a b => complement (a ^^^ b))
    (fun a b => complement (a ^^^ b)) (fun a b => (a ^^^ b : Nat))

def powNumber (x y : Binary64) : Act Value :=
  if x.isZero && y.isNegative && !y.isZero && !y.isNaN then
    byZero "0.0 cannot be raised to a negative power"
  else
    let p := x.pow y
    if p.isNaN && !x.isNaN && !y.isNaN then
      valueError "negative number cannot be raised to a fractional power"
    else if !p.isFinite && x.isFinite && y.isFinite then
      raiseWith "OverflowError" [.int 34, .str "Numerical result out of range"]
    else return .num p

def ofInts (op : BinaryOp) (a b : Int) (v w : Value) : Act Value :=
  match op with
  | .add => return .int (a + b)
  | .sub => return .int (a - b)
  | .mul => return .int (a * b)
  | .div =>
    if b = 0 then byZero "division by zero"
    else
      let x := Binary64.ofRatio ((a < 0) != (b < 0)) a.natAbs b.natAbs
      let x := if a = 0 then Binary64.zero false else x
      if x.isFinite then return .num x
      else raise "OverflowError" "integer division result too large for a float"
  | .floorDiv =>
    if b = 0 then byZero "integer division or modulo by zero" else return .int (Int.fdiv a b)
  | .mod => if b = 0 then byZero "integer modulo by zero" else return .int (Int.fmod a b)
  | .pow =>
    if 0 ≤ b then return .int (Int.pow a b.toNat)
    else do powNumber (← widen a) (← widen b)
  | .shiftLeft =>
    if b < 0 then valueError "negative shift count" else return .int (a * Nat.pow 2 b.toNat)
  | .shiftRight =>
    if b < 0 then valueError "negative shift count" else return .int (Int.fdiv a (Nat.pow 2 b.toNat))
  | .bitAnd => return .int (bitAnd a b)
  | .bitOr => return .int (bitOr a b)
  | .bitXor => return .int (bitXor a b)
  | .matMul => unsupported op.sign v w

def ofNumbers (op : BinaryOp) (sign : String) (x y : Binary64) (v w : Value) : Act Value :=
  match op with
  | .add => return .num (x.add y)
  | .sub => return .num (x.sub y)
  | .mul => return .num (x.mul y)
  | .div => if y.isZero then byZero "float division by zero" else return .num (x.div y)
  | .floorDiv =>
    if y.isZero then byZero "float floor division by zero" else return .num (x.floorDiv y)
  | .mod => if y.isZero then byZero "float modulo" else return .num (x.rem y)
  | .pow => powNumber x y
  | _ => unsupported sign v w

def ofNumerics (op : BinaryOp) (sign : String) (a b : Numeric) (v w : Value) : Act Value :=
  match op, a, b with
  | op, .int a, .int b =>
    match op, v, w with
    | .bitAnd, .bool a, .bool b => return .bool (a && b)
    | .bitOr, .bool a, .bool b => return .bool (a || b)
    | .bitXor, .bool a, .bool b => return .bool (a != b)
    | .matMul, _, _ => unsupported sign v w
    | _, _, _ => ofInts op a b v w
  | op, a, b =>
    match op with
    | .add | .sub | .mul | .div | .floorDiv | .mod | .pow => do
      ofNumbers op sign (← asNumber a) (← asNumber b) v w
    | _ => unsupported sign v w

def repeated {α : Type} (n : Int) (xs : List α) : List α := (List.replicate n.toNat xs).flatten

def mostItems : Nat := 200000000

def checkSize (n : Int) (length : Nat) : Act Unit :=
  if length = 0 || n ≤ 0 then return
  else if 0x8000000000000000 ≤ n then raise "OverflowError" "cannot fit 'int' into an index-sized integer"
  else if mostItems < n.toNat * length then raiseWith "MemoryError" []
  else return

/-- The whole number that a value is. -/
def index? : Value → Option Int
  | .bool b => some (if b then 1 else 0)
  | .int n => some n
  | _ => none

/-- Joins two values, the left of which is a text, a list or the like. -/
def concatenated (v w : Value) : Act (Option Value) := do
  let refuse (type : String) : Act (Option Value) := do
    let other ← look (·.typeName w)
    typeError ("can only concatenate " ++ type ++ " (not \"" ++ other ++ "\") to " ++ type)
  match v, w with
  | .str a, .str b => return some (.str (a ++ b))
  | .str _, _ => refuse "str"
  | .bytes a, .bytes b => return some (.bytes (a ++ b))
  | .bytes _, w => do
    let other ← look (·.typeName w)
    typeError ("can't concat " ++ other ++ " to bytes")
  | .tuple a, .tuple b => return some (.tuple (a ++ b))
  | .tuple _, _ => refuse "tuple"
  | .ref r, w =>
    match ← look (·.get? r) with
    | some (.list a) =>
      match w with
      | .ref s =>
        match ← look (·.get? s) with
        | some (.list b) => return some (← make (.list (a ++ b)))
        | _ => refuse "list"
      | _ => refuse "list"
    | _ => return none
  | _, _ => return none

/-- A text, list or the like repeated. -/
def multiplied (v : Value) (n : Int) : Act (Option Value) := do
  match v with
  | .str s =>
    checkSize n s.length
    return some (.str (String.ofList (repeated n s.toList)))
  | .bytes bs =>
    checkSize n bs.length
    return some (.bytes (repeated n bs))
  | .tuple items =>
    checkSize n items.length
    return some (.tuple (repeated n items))
  | .ref r =>
    match ← look (·.get? r) with
    | some (.list items) =>
      checkSize n items.length
      return some (← make (.list (repeated n items)))
    | _ => return none
  | _ => return none

def isSequence (v : Value) : Act Bool := do
  match v with
  | .str _ | .bytes _ | .tuple _ => return true
  | .ref r =>
    match ← look (·.get? r) with
    | some (.list _) => return true
    | _ => return false
  | _ => return false

/-- The members of a set or of a view that is like one. -/
def members? (v : Value) : Act (Option (Bool × List Value)) := do
  match v with
  | .ref r =>
    match ← look (·.get? r) with
    | some (.set frozen items) => return some (frozen, items)
    | some (.view .keys d) =>
      match ← look (·.get? d) with
      | some (.dict entries) => return some (false, entries.map (·.1))
      | _ => return none
    | _ => return none
  | _ => return none

def ofMembers (m : Memory) (op : BinaryOp) (as bs : List Value) : Option (List Value) :=
  match op with
  | .bitOr => some (bs.foldl (fun out b => m.addMember b out) as)
  | .bitAnd => some (as.filter fun a => m.hasMember a bs)
  | .sub => some (as.filter fun a => !m.hasMember a bs)
  | .bitXor => some ((as.filter fun a => !m.hasMember a bs) ++ bs.filter fun b => !m.hasMember b as)
  | _ => none

/-- The operators on what is no number. -/
def ofOthers (op : BinaryOp) (sign : String) (v w : Value) : Act Value := do
  match op with
  | .add =>
    match ← concatenated v w with
    | some r => return r
    | none => unsupported sign v w
  | .mul =>
    let (seq, count) := if ← isSequence v then (v, w) else (w, v)
    if ← isSequence seq then
      match index? count with
      | some n =>
        match ← multiplied seq n with
        | some r => return r
        | none => unsupported sign v w
      | none =>
        let other ← look (·.typeName count)
        typeError ("can't multiply sequence by non-int of type '" ++ other ++ "'")
    else unsupported sign v w
  | .mod =>
    match v with
    | .str s =>
      let r ← look (·.filledIn s w)
      return .str (← lift r)
    | v => unsupported sign v w
  | .bitOr =>
    match v, w with
    | .ref r, .ref s =>
      match ← look (·.get? r), ← look (·.get? s) with
      | some (.dict as), some (.dict bs) =>
        let m ← look id
        make (.dict (bs.foldl (fun out e => m.setEntry e.1 e.2 out) as))
      | _, _ => sets
    | _, _ => sets
  | _ => sets
where
  /-- Sets on both sides. -/
  sets : Act Value := do
    match ← members? v, ← members? w with
    | some (frozen, as), some (_, bs) =>
      let m ← look id
      match ofMembers m op as bs with
      | some items => make (.set frozen items)
      | none => unsupported sign v w
    | _, _ => unsupported sign v w

/-- An operator with two operands; `sign` is how an error names it. -/
def binaryAs (op : BinaryOp) (sign : String) (v w : Value) : Act Value :=
  match v.numeric?, w.numeric? with
  | some a, some b => ofNumerics op sign a b v w
  | _, _ => ofOthers op sign v w

def binary (op : BinaryOp) (v w : Value) : Act Value := binaryAs op op.sign v w

def unary (op : UnaryOp) (v : Value) : Act Value := do
  let refuse (sign : String) : Act Value := do
    let type ← look (·.typeName v)
    typeError ("bad operand type for unary " ++ sign ++ ": '" ++ type ++ "'")
  match op with
  | .not => return .bool (!(← look (·.truthy v)))
  | .negate =>
    match v.numeric? with
    | some (.int n) => return .int (-n)
    | some (.num x) => return .num x.neg
    | none =>
      match v with
      | .imaginary x => return .imaginary x.neg
      | _ => refuse "-"
  | .plus =>
    match v.numeric? with
    | some (.int n) => return .int n
    | some (.num x) => return .num x
    | none => refuse "+"
  | .invert =>
    match v.numeric? with
    | some (.int n) => return .int (-n - 1)
    | _ => refuse "~"

end Operate
end Userscript.Machine
