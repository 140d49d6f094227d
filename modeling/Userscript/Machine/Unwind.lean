import Userscript.Machine.Value

/-!
# Userscript.Machine.Unwind

Frames: their stack and variables, and how a signal finds the block that takes it.

* `Frame.unwind` goes up through the blocks of a frame with a signal: a loop takes `left` and `continued`,
  handlers take errors, and code that runs last takes everything and passes it on at its end;
* `Frame.finish` is what comes after the code of the innermost block.

Both give the error that is handled from then on.
-/

namespace Userscript.Machine

inductive Step where
  /-- It goes on. -/
  | on (frame : Frame)
  /-- It gives an item and waits. -/
  | paused (item : Value) (frame : Frame)
  /-- It ends with a result. -/
  | ended (result : Value)
  /-- It ends with an error. -/
  | broken (error : Value)

namespace Frame

/-! ## The stack -/

def top (f : Frame) : Value := f.stack.headD .none

def second (f : Frame) : Value := f.stack.getD 1 .none

def push (f : Frame) (v : Value) : Frame := { f with stack := v :: f.stack }

def drop (f : Frame) (n : Nat) : Frame := { f with stack := f.stack.drop n }

/-- The upper values, from the lowest to the top. -/
def upper (f : Frame) (n : Nat) : List Value := (f.stack.take n).reverse

def bottom (f : Frame) : Value := f.stack.getLastD .none

/-- The frame with as many values as it had at some time. -/
def cut (f : Frame) (height : Nat) : Frame := f.drop (f.stack.length - height)

def height (f : Frame) : Nat := f.stack.length

/-! ## Code and blocks -/

/-- The frame with more code before the rest. -/
def goOn (f : Frame) (code : Code) : Frame := { f with code := code ++ f.code }

/-- The frame in a new block with code of its own. -/
def enter (f : Frame) (b : Block) (code : Code) : Frame := { f with code, blocks := b :: f.blocks }

/-- Goes up through blocks with a signal; `handled` is the error that is handled. -/
def unwindFrom (f : Frame) : Signal → Option Value → List Block → Step × Option Value
  | .raised e, handled, [] => (.broken e, handled)
  | .returned v, handled, [] => (.ended v, handled)
  | _, handled, [] => (.ended .none, handled)
  | s, handled, b :: rest =>
    match b, s with
    | .loop _ after height, .left => (.on { f.cut height with code := after, blocks := rest }, handled)
    | .loop _ _ height, .continued =>
      (.on { f.cut height with code := [], blocks := b :: rest }, handled)
    | .loop .., s => unwindFrom f s handled rest
    | .each _ _ after height, .left =>
      (.on { f.cut height with code := after, blocks := rest }, handled)
    | .each _ _ _ height, .continued =>
      (.on { f.cut (height + 1) with code := [], blocks := b :: rest }, handled)
    | .each .., s => unwindFrom f s handled rest
    | .guarded handlers _ after height, .raised e =>
      (.on { (f.cut height).push e with
        code := handlers, blocks := .handling handled after :: rest }, some e)
    | .guarded .., s => unwindFrom f s handled rest
    | .cleanup last _ height, s =>
      let now := match s with
        | .raised e => some e
        | _ => handled
      (.on { f.cut height with code := last, blocks := .pending s handled :: rest }, now)
    | .handling previous _, s => unwindFrom f s previous rest
    | .pending _ previous, s => unwindFrom f s previous rest

/-- Goes up through the blocks of a frame with a signal. -/
def unwind (f : Frame) (s : Signal) (handled : Option Value) : Step × Option Value :=
  f.unwindFrom s handled f.blocks

/-- A further turn of the innermost loop over items, or its end. -/
def turn (f : Frame) (item : Option Value) : Frame :=
  match f.blocks, item with
  | .each turn .. :: _, some v => { f.push v with code := turn }
  | .each _ otherwise after _ :: rest, none =>
    { f.drop 1 with code := otherwise ++ after, blocks := rest }
  | _, _ => f

/-- What comes after the code of the innermost block, which has no more turns if it is a loop over items. -/
def finish (f : Frame) (handled : Option Value) : Step × Option Value :=
  match f.blocks with
  | [] => (.ended .none, handled)
  | .loop turn .. :: _ => (.on { f with code := turn }, handled)
  | .each .. :: _ => (.on (f.turn none), handled)
  | .guarded _ otherwise after _ :: rest =>
    (.on { f with code := otherwise ++ after, blocks := rest }, handled)
  | .cleanup last after _ :: rest => (.on { f with code := last ++ after, blocks := rest }, handled)
  | .handling previous after :: rest => (.on { f with code := after, blocks := rest }, previous)
  | .pending s previous :: rest =>
    { f with blocks := rest }.unwindFrom s previous rest

/-- The frame after its innermost loop ran out of turns. -/
def quit (f : Frame) (otherwise : Code) : Frame :=
  match f.blocks with
  | .loop _ after _ :: rest => { f with code := otherwise ++ after, blocks := rest }
  | _ => f

/-- Whether an error is handled in the frame itself. -/
def handles (f : Frame) : Bool :=
  f.blocks.any fun
    | .handling .. => true
    | .pending (.raised _) .. => true
    | _ => false

end Frame
end Userscript.Machine
