import Userscript.Machine.Function

/-!
# Userscript.Machine.Perform

What each instruction does to the frame that runs it.

`perform` takes the frame behind the instruction and gives what it comes to. Errors leave the frame as it was
before the instruction; who runs the frame finds their handlers.
-/

namespace Userscript.Machine

namespace Perform

open Act

/-! ## Values -/

def ofLiteral : Syntax.Literal → Value
  | .none => .none
  | .bool b => .bool b
  | .int n => .int n
  | .num x => .num x
  | .imaginary x => .imaginary x
  | .text s => .str s
  | .bytes bs => .bytes bs
  | .ellipsis => .ellipsis

/-- The text of a value in a text with fields. -/
def format (v : Value) (conversion : Option Char) (spec : Value) : Act Value := do
  let m ← look id
  let v ← match conversion with
    | some 's' => pure (Value.str (← written Memory.display v))
    | some 'r' => pure (.str (← written Memory.shown v))
    | some 'a' => pure (.str (Text.escapeBeyondAscii (← written Memory.shown v)))
    | _ => pure v
  let spec := match spec with
    | .str s => s
    | _ => ""
  return .str (← lift (m.formatted v spec))

def joined (vs : List Value) : Value :=
  .str (String.join (vs.map fun
    | .str s => s
    | _ => ""))

/-! ## Collections -/

/-- The list at a place with another value. -/
def listed (items : List Value) : Act Value := make (.list items)

def append (list item : Value) : Act Unit := do
  match list with
  | .ref r =>
    match ← look (·.get? r) with
    | some (.list items) => put r (.list (items ++ [item]))
    | _ => return
  | _ => return

def add (set item : Value) : Act Unit := do
  match set with
  | .ref r =>
    Item.checkKey item
    match ← look (·.get? r) with
    | some (.set frozen items) =>
      let m ← look id
      put r (.set frozen (m.addMember item items))
    | _ => return
  | _ => return

def addEntry (dict key item : Value) : Act Unit := do
  match dict with
  | .ref r =>
    match ← look (·.get? r) with
    | some (.dict entries) =>
      Item.checkKey key
      let m ← look id
      put r (.dict (m.setEntry key item entries))
    | _ => return
  | _ => return

/-- Keys and values that follow one another, as entries. -/
def paired : List Value → List (Value × Value)
  | k :: v :: rest => (k, v) :: paired rest
  | _ => []

def entries? (m : Memory) (v : Value) : Option (List (Value × Value)) :=
  match v with
  | .ref r =>
    match m.get? r with
    | some (.dict entries) => some entries
    | _ => none
  | _ => none

variable (c : Calls)

/-- Puts all items of a value into a list. -/
def extend (list items : Value) : Act Unit := do
  if !(← look (Iterate.isIterable · items)) then
    let type ← look (·.typeName items)
    typeError ("Value after * must be an iterable, not " ++ type)
  let vs ← Iterate.itemsOf c items
  let _ ← each (append list) vs
  return

/-- Puts all items of a value into a set. -/
def addAll (set items : Value) : Act Unit := do
  let vs ← Iterate.itemsOf c items
  let _ ← each (add set) vs
  return

/-- Puts all entries of a value into a dictionary. -/
def merge (dict more : Value) : Act Unit := do
  match ← look (entries? · more) with
  | some entries =>
    let _ ← each (fun (e : Value × Value) => addEntry dict e.1 e.2) entries
    return
  | none =>
    let type ← look (·.typeName more)
    typeError ("'" ++ type ++ "' object is not a mapping")

/-! ## Arguments -/

/-- How errors about the arguments of a call name what is called. -/
def calleeText (m : Memory) (f : Value) : String :=
  match f with
  | .type name => name ++ "()"
  | .builtin b => b.name ++ "()"
  | .method receiver name => m.typeName receiver ++ "." ++ name ++ "()"
  | .capability k => Invoke.pathOf k ++ "()"
  | .ref r =>
    match m.get? r with
    | some (.function s ..) => s.path ++ "()"
    | _ => m.display f
  | f => m.display f

/-- Adds a named argument, which must not be there yet. -/
def addNamed (f dict key item : Value) : Act Unit := do
  let m ← look id
  match key with
  | .str name =>
    if (m.lookUp key ((entries? m dict).getD [])).isSome then
      typeError (calleeText m f ++ " got multiple values for keyword argument '" ++ name ++ "'")
    else addEntry dict key item
  | _ => typeError "keywords must be strings"

/-- Adds named arguments, none of which must be there yet. -/
def mergeNamed (f dict more : Value) : Act Unit := do
  let m ← look id
  match entries? m more with
  | some entries =>
    let _ ← each (fun (e : Value × Value) => addNamed f dict e.1 e.2) entries
    return
  | none =>
    typeError (calleeText m f ++ " argument after ** must be a mapping, not " ++ m.typeName more)

def spread (f items : Value) : Act (List Value) := do
  let m ← look id
  if Iterate.isIterable m items then Iterate.itemsOf c items
  else
    typeError (calleeText m f ++ " argument after * must be an iterable, not " ++ m.typeName items)

/-- The named arguments that a dictionary holds. -/
def spreadNamed (m : Memory) (dict : Value) : Arity.Named :=
  ((entries? m dict).getD []).filterMap fun
    | (.str name, v) => some (name, v)
    | _ => none

/-! ## Operators -/

def compare (op : Comparison) (v w : Value) : Act Value := do
  match op with
  | .eq => return .bool (← look (·.equal v w))
  | .ne => return .bool (!(← look (·.equal v w)))
  | .is => return .bool (← look (·.same v w))
  | .isNot => return .bool (!(← look (·.same v w)))
  | .mem => return .bool (← Item.holds c w v)
  | .notMem => return .bool (!(← Item.holds c w v))
  | op =>
    let r ← look (·.order op v w)
    return .bool (← lift r)

/-- The operator of an assignment that changes its target: lists, sets and dictionaries stay what they are and
get other contents. -/
def change (op : BinaryOp) (v w : Value) : Act Value := do
  let fresh : Act Value := Operate.binaryAs op (op.sign ++ "=") v w
  match v with
  | .ref r =>
    match ← look (·.get? r), op with
    | some (.list _), .add =>
      let more ← Iterate.itemsOf c w
      match ← look (·.get? r) with
      | some (.list items) => put r (.list (items ++ more))
      | _ => return v
      return v
    | some (.list items), .mul =>
      match Operate.index? w with
      | some n =>
        Operate.checkSize n items.length
        put r (.list (Operate.repeated n items))
        return v
      | none => fresh
    | some (.set false items), op =>
      match ← Operate.members? w with
      | some (_, more) =>
        let m ← look id
        match Operate.ofMembers m op items more with
        | some items =>
          put r (.set false items)
          return v
        | none => fresh
      | none => fresh
    | some (.dict entries), .bitOr =>
      let entries ← Method.gatherEntries c "dict.update" entries [w] []
      put r (.dict entries)
      return v
    | _, _ => fresh
  | _ => fresh

/-! ## Unpacking -/

/-- The next items of an iterator, up to so many. -/
def takeItems (it : Value) : Nat → Act (List Value)
  | 0 => return []
  | n + 1 => do
    match ← c.next it with
    | some v =>
      let more ← takeItems it n
      return v :: more
    | none => return []

def unpacking (v : Value) : Act Value := do
  if ← look (Iterate.isIterable · v) then Iterate.iteratorOf v
  else
    let type ← look (·.typeName v)
    typeError ("cannot unpack non-iterable " ++ type ++ " object")

/-- Exactly so many items of a value. -/
def unpack (v : Value) (n : Nat) : Act (List Value) := do
  let it ← unpacking v
  let items ← takeItems c it (n + 1)
  if items.length < n then
    valueError ("not enough values to unpack (expected " ++ toString n ++ ", got " ++
      toString items.length ++ ")")
  else if n < items.length then
    valueError ("too many values to unpack (expected " ++ toString n ++ ")")
  else return items

/-- The items of a value, with those between the first and the last ones in a list. -/
def unpackAround (v : Value) (before after : Nat) : Act (List Value) := do
  let lacking {α : Type} (got : Nat) : Act α :=
    valueError ("not enough values to unpack (expected at least " ++ toString (before + after) ++
      ", got " ++ toString got ++ ")")
  let it ← unpacking v
  let first ← takeItems c it before
  if first.length < before then lacking first.length
  let rest ← Iterate.drain c it turns []
  if rest.length < after then lacking (before + rest.length)
  let middle ← listed (rest.take (rest.length - after))
  return first ++ middle :: rest.drop (rest.length - after)

/-! ## Errors -/

def throwing (v : Value) : Act Value := do
  match ← errorOf? c v with
  | some e => return e
  | none => typeError "exceptions must derive from BaseException"

def checkCause (v : Value) : Act Unit := do
  match v with
  | .none => return
  | v =>
    match ← errorOf? c v with
    | some _ => return
    | none => typeError "exception causes must derive from BaseException"

/-- The kinds of errors that a value stands for. -/
def caught (v : Value) : Act (List String) := do
  let kind? : Value → Option String
    | .type t => if isErrorType t then some t else none
    | _ => none
  let kinds? := match v with
    | .tuple items => items.mapM kind?
    | v => (kind? v).map fun t => [t]
  match kinds? with
  | some kinds => return kinds
  | none => typeError "catching classes that do not inherit from BaseException is not allowed"

/-! ## Going on with iterators -/

def send (it v : Value) : Act Yielded := do
  let generator? ← look fun m => match it with
    | .ref r =>
      match m.get? r with
      | some (.generator ..) => some r
      | _ => none
    | _ => none
  match generator?, v with
  | some r, v => c.resume r (.send v)
  | none, .none =>
    match ← c.next it with
    | some item => return .item item
    | none => return .finished .none
  | none, v => do
    let f ← Attribute.get it "send"
    return .item (← c.call f [v] [])

/-- Goes on with what an inner iterator came to; `again` is the frame that asks it once more. -/
def delegated (again on : Frame) (y : Yielded) : Act Step :=
  match y with
  | .item v => return .paused v again
  | .finished v => return .on (on.push v)

/-! ## Instructions -/

def signal (s : Signal) (f : Frame) : Act Step := do
  let handled ← look (·.handling)
  let (step, handled) := f.unwind s handled
  change fun m => { m with handling := handled }
  return step
where
  /-- Changes memory. -/
  change (g : Memory → Memory) : Act Unit := Act.change g

def collection (i : Instr) (f : Frame) : Act Step := do
  match i with
  | .makeTuple n => return .on ((f.drop n).push (.tuple (f.upper n)))
  | .makeList n => return .on ((f.drop n).push (← listed (f.upper n)))
  | .makeSet n =>
    let items ← Method.membersFrom (f.upper n)
    return .on ((f.drop n).push (← make (.set false items)))
  | .makeDict => return .on (f.push (← make (.dict [])))
  | .makeSlice =>
    let start := f.stack.getD 2 .none
    return .on ((f.drop 3).push (.slice start f.second f.top))
  | .makeText n => return .on ((f.drop n).push (joined (f.upper n)))
  | .format conversion spec =>
    let (v, spec, n) := if spec then (f.second, f.top, 2) else (f.top, Value.none, 1)
    return .on ((f.drop n).push (← format v conversion spec))
  | .append =>
    append f.second f.top
    return .on (f.drop 1)
  | .add =>
    add f.second f.top
    return .on (f.drop 1)
  | .addEntries n =>
    let dict := f.stack.getD (2 * n) .none
    let _ ← each (fun (e : Value × Value) => addEntry dict e.1 e.2) (paired (f.upper (2 * n)))
    return .on (f.drop (2 * n))
  | .extend =>
    extend c f.second f.top
    return .on (f.drop 1)
  | .addAll =>
    addAll c f.second f.top
    return .on (f.drop 1)
  | .merge =>
    merge f.second f.top
    return .on (f.drop 1)
  | .addNamed =>
    addNamed (f.stack.getD 4 .none) (f.stack.getD 2 .none) f.second f.top
    return .on (f.drop 2)
  | .mergeNamed =>
    mergeNamed (f.stack.getD 3 .none) f.second f.top
    return .on (f.drop 1)
  | .listToTuple =>
    let items ← Iterate.itemsOf c f.top
    return .on ((f.drop 1).push (.tuple items))
  | .collect =>
    append f.bottom f.top
    return .on (f.drop 1)
  | .collectItem =>
    add f.bottom f.top
    return .on (f.drop 1)
  | .collectEntry =>
    addEntry f.bottom f.second f.top
    return .on (f.drop 2)
  | .unpack n =>
    let items ← unpack c f.top n
    let f := f.drop 1
    return .on { f with stack := items ++ f.stack }
  | .unpackAround before after =>
    let items ← unpackAround c f.top before after
    let f := f.drop 1
    return .on { f with stack := items ++ f.stack }
  | _ => return .on f

/-- The instructions for values, variables and operators. -/
def simple (i : Instr) (f : Frame) : Act Step := do
  match i with
  | .push v => return .on (f.push (ofLiteral v))
  | .pop => return .on (f.drop 1)
  | .copy => return .on (f.push f.top)
  | .copyTwo => return .on { f with stack := f.stack.take 2 ++ f.stack }
  | .under => return .on { f with stack := f.second :: f.top :: f.stack.drop 2 }
  | .underTwo =>
    return .on { f with stack := f.second :: f.stack.getD 2 .none :: f.top :: f.stack.drop 3 }
  | .load home name => return .on (f.push (← Function.load f home name))
  | .store home name => return .on (← Function.assign (f.drop 1) home name (some f.top))
  | .delete home name => return .on (← Function.delete f home name)
  | .getAttr name => return .on ((f.drop 1).push (← Attribute.get f.top name))
  | .setAttr name =>
    Attribute.set c f.top name f.second
    return .on (f.drop 2)
  | .deleteAttr name =>
    Attribute.delete f.top name
    return .on (f.drop 1)
  | .getItem => return .on ((f.drop 2).push (← Item.get f.second f.top))
  | .setItem =>
    Item.set c f.second f.top (f.stack.getD 2 .none)
    return .on (f.drop 3)
  | .deleteItem =>
    Item.delete f.second f.top
    return .on (f.drop 2)
  | .unary op => return .on ((f.drop 1).push (← Operate.unary op f.top))
  | .binary op => return .on ((f.drop 2).push (← Operate.binary op f.second f.top))
  | .change op => return .on ((f.drop 2).push (← change c op f.second f.top))
  | .compare op => return .on ((f.drop 2).push (← compare c op f.second f.top))
  | i => collection c i f

/-- The instructions for choices, loops and errors. -/
def flow (i : Instr) (f : Frame) : Act Step := do
  let truth ← look (·.truthy f.top)
  match i with
  | .chain op more =>
    let r ← compare c op f.second f.top
    if ← look (·.truthy r) then return .on (((f.drop 2).push f.top).goOn more)
    else return .on ((f.drop 2).push r)
  | .branch yes no => return .on ((f.drop 1).goOn (if truth then yes else no))
  | .andThen more => return .on (if truth then (f.drop 1).goOn more else f)
  | .orElse more => return .on (if truth then f else (f.drop 1).goOn more)
  | .iterate => return .on ((f.drop 1).push (← Iterate.iteratorOf f.top))
  | .each turn otherwise => return .on (f.enter (.each turn otherwise f.code (f.height - 1)) [])
  | .loop turn => return .on (f.enter (.loop turn f.code f.height) turn)
  | .quit otherwise => return .on (f.quit otherwise)
  | .leave => signal .left f
  | .again => signal .continued f
  | .guarded body handlers otherwise =>
    return .on (f.enter (.guarded handlers otherwise f.code f.height) body)
  | .cleanup body last => return .on (f.enter (.cleanup last f.code f.height) body)
  | .isError =>
    let kinds ← caught f.top
    let kind ← look (·.typeName f.second)
    return .on ((f.drop 1).push (.bool (kinds.any fun k => isKindOf kind k)))
  | .reraise => fail (.raised f.top)
  | .raise 0 =>
    match ← look (·.handling) with
    | some e => fail (.raised e)
    | none => raise "RuntimeError" "No active exception to reraise"
  | .raise 1 =>
    let e ← throwing c f.top
    fail (.raised e)
  | .raise _ =>
    let e ← throwing c f.second
    checkCause c f.top
    fail (.raised e)
  | .failAssertion message => raiseWith "AssertionError" (if message then [f.top] else [])
  | i => simple c i f

def perform (i : Instr) (f : Frame) : Act Step := do
  match i with
  | .function s defaults namedDefaults body =>
    return .on (← Function.define f s defaults namedDefaults body)
  | .call positional names =>
    let named := names.zip (f.upper names.length)
    let f := f.drop names.length
    let args := f.upper positional
    let f := f.drop positional
    let v ← c.call f.top args named
    return .on ((f.drop 1).push v)
  | .callWith =>
    let callee := f.stack.getD 2 .none
    let args ← spread c callee f.second
    let named ← look (spreadNamed · f.top)
    let v ← c.call callee args named
    return .on ((f.drop 3).push v)
  | .giveBack => signal (.returned f.top) (f.drop 1)
  | .yield => return .paused f.top (f.drop 1)
  | .yieldFrom =>
    let waiting := f.drop 1
    let y ← send c f.second f.top
    delegated { waiting with code := .yieldFrom :: f.code } (f.drop 2) y
  | .await =>
    let type ← look (·.typeName f.top)
    typeError ("object " ++ type ++ " can't be used in 'await' expression")
  | .enterContext =>
    let type ← look (·.typeName f.top)
    typeError ("'" ++ type ++ "' object does not support the context manager protocol")
  | .unsupported what => raise "RuntimeError" (what ++ " is not supported")
  | i => flow c i f

end Perform
end Userscript.Machine
