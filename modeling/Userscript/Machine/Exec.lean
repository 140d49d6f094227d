import Userscript.Machine.Perform

/-!
# Userscript.Machine.Exec

Frames run by their instructions, and functions called by frames of their own.

* `advance` is one step: an error in it goes to the handlers of the frame;
* `runFrom` takes steps until the frame ends or waits;
* `callsTo` ties the knot: what runs at one depth calls at the depth below, and at depth 0 every call is
  refused.
-/

namespace Userscript.Machine

open Act

/-- What a run of a frame comes to. -/
inductive Outcome where
  | ended (result : Value)
  /-- The frame gave an item, and can go on. -/
  | paused (item : Value) (frame : Frame)

namespace Exec

variable (c : Calls)

/-- The next step of a frame, which may fail. -/
def goOn (f : Frame) : Act Step := do
  match f.code, f.blocks with
  | i :: rest, _ => Perform.perform c i { f with code := rest }
  | [], .each .. :: _ =>
    let item ← c.next f.top
    return .on (f.turn item)
  | [], _ =>
    let (step, handled) := f.finish (← look (·.handling))
    change fun m => { m with handling := handled }
    return step

/-- The next step of a frame, in which handlers take errors. -/
def advance (f : Frame) : Act Step :=
  recover (goOn c f) fun
    | .ok step => return step
    | .error (.raised e) => Perform.signal (.raised e) f
    | .error t => fail t

/-- Runs a frame until it ends or waits. -/
def runFrom : Nat → Frame → Memory → Dialogue (Except Trouble Outcome × Memory)
  | 0, _, m => .done (.error .endless, m)
  | fuel + 1, f, m =>
    match advance c f m with
    | .done (.ok (.on f), m) => runFrom fuel f m
    | d => d.bind fun
      | (.ok (.on f), m) => runFrom fuel f m
      | (.ok (.paused v f), m) => .done (.ok (.paused v f), m)
      | (.ok (.ended v), m) => .done (.ok (.ended v), m)
      | (.ok (.broken e), m) => .done (.error (.raised e), m)
      | (.error t, m) => .done (.error t, m)

def runOn (step : Step) : Act Outcome :=
  match step with
  | .on f => runFrom c turns f
  | .paused v f => return .paused v f
  | .ended v => return .ended v
  | .broken e => fail (.raised e)

def result (f : Frame) : Act Value := do
  match ← runOn c (.on f) with
  | .ended v => return v
  | .paused .. => return .none

/-! ## Generators -/

/-- Throws an error into a frame that waits, or into the generator that it waits for. -/
def throwInto (f : Frame) (e : Value) : Act Step := do
  let here : Act Step := Perform.signal (.raised e) f
  match f.code, f.top with
  | .yieldFrom :: rest, .ref r =>
    match ← look (·.get? r) with
    | some (.generator ..) =>
      recover (c.resume r (.throw e)) fun
        | .ok y => Perform.delegated f { f.drop 1 with code := rest } y
        | .error (.raised e) => Perform.signal (.raised e) f
        | .error t => fail t
    | _ => here
  | _, _ => here

/-- Runs a generator's frame from a step, and puts it back into memory. An error that would look like the
end of the generator is made another one. -/
def resumed (r : Ref) (s : Signature) (own : Option Value) (start : Act Step) : Act Yielded := do
  let outer ← look (·.handling)
  put r (.generator s .running)
  change fun m => { m with handling := own <|> outer }
  let run : Act Outcome := do
    let step ← start
    runOn c step
  recover run fun answer => do
    let now ← look (·.handling)
    change fun m => { m with handling := outer }
    match answer with
    | .ok (.paused v f) =>
      let handling := if f.handles then now else none
      put r (.generator s (.waiting { f with handling }))
      return .item v
    | .ok (.ended v) =>
      put r (.generator s .finished)
      return .finished v
    | .error t =>
      put r (.generator s .finished)
      match t with
      | .raised e =>
        if (← look (·.typeName e)) = "StopIteration" then
          raise "RuntimeError" "generator raised StopIteration"
        else fail t
      | t => fail t

def resume (r : Ref) (how : Resume) : Act Yielded := do
  match ← look (·.get? r) with
  | some (.generator s (.fresh f)) =>
    match how with
    | .send .none => resumed c r s none (return .on f)
    | .send _ => typeError "can't send non-None value to a just-started generator"
    | .throw e =>
      put r (.generator s .finished)
      fail (.raised e)
  | some (.generator s (.waiting f)) =>
    match how with
    | .send v => resumed c r s f.handling (return .on (f.push v))
    | .throw e => resumed c r s f.handling (throwInto c f e)
  | some (.generator _ .running) => valueError "generator already executing"
  | _ =>
    match how with
    | .send _ => return .finished .none
    | .throw e => fail (.raised e)

/-! ## Calls -/

/-- Runs the frame of a function that was called, or puts it off. -/
def begin (s : Signature) (f : Frame) : Act Value :=
  match s.manner with
  | .plain => result c f
  | .generator => make (.generator s (.fresh f))
  | .waiting => make (.waiting s)

/-- Calls a function that is provided from outside. -/
def foreign (n : Nat) (args : List Value) (named : Arity.Named) : Act Value :=
  match named with
  | [] => fun m => .foreign n args fun
    | .ok v => Invoke.ofJson v m
    | .error (kind, text) => Act.raise kind text m
  | (name, _) :: _ => typeError ("<lambda>() got an unexpected keyword argument '" ++ name ++ "'")

def call (f : Value) (args : List Value) (named : Arity.Named) : Act Value := do
  let refuse : Act Value := do
    let type ← look (·.typeName f)
    typeError ("'" ++ type ++ "' object is not callable")
  match f with
  | .type name => Construct.call c name args named
  | .builtin b => Builtins.call c b args named
  | .method receiver name => Method.call c receiver name args named
  | .capability k => Invoke.capability k args named
  | .foreign n => foreign n args named
  | .ref r =>
    match ← look (·.get? r) with
    | some (.function s body defaults namedDefaults cells _) =>
      let values ← Function.arguments s defaults namedDefaults args named
      let f ← Function.frame s body cells values
      begin c s f
    | _ => refuse
  | _ => refuse

/-- Refuses to go deeper. -/
def tooDeep {α : Type} : Act α := raise "RecursionError" "maximum recursion depth exceeded"

end Exec

/-- Calls that may nest to a depth. -/
def callsTo : Nat → Calls
  | 0 => ⟨fun _ _ _ => Exec.tooDeep, fun _ => Exec.tooDeep, fun _ _ => Exec.tooDeep⟩
  | n + 1 =>
    ⟨fun f args named => Exec.call (callsTo n) f args named, fun it => Iterate.next (callsTo n) it,
      fun r how => Exec.resume (callsTo n) r how⟩

def callDepth : Nat := 985

def calls : Calls := callsTo callDepth

end Userscript.Machine
