import Userscript.Api

/-!
# Userscript.Api.Remote

The engine as a host reaches it over HTTP.

Whatever is no success counts as an engine that cannot be reached, a redirection too.

* `Remote.select` and `Remote.report` ask the engine over a line;
* `Remote.direct` is the line to an engine that gets every request and gives every reply.
-/

namespace Userscript.Api

/-- The way to an engine: what it answers, if it answers at all, as a status and data. -/
abbrev Line (σ : Type) := Request → StateM σ (Except Fault (Option (Nat × Json)))

structure Remote where
  address : String

namespace Remote

/-- The address without the slashes at its end. -/
def ofText (address : String) : Remote := ⟨dropSlashes address⟩

/-- The path of what the engine has at a path. -/
def path (r : Remote) (path : String) : String :=
  match Net.Address.ofText r.address with
  | .ok a => dropSlashes a.path ++ path
  | .error _ => path

variable {σ : Type}

/-- Sends a message, and gives what comes back if it is a success. -/
def post (line : Line σ) (r : Remote) (path : String) (message : Json) :
    StateM σ (Except Fault (Option Json)) := do
  match ← line { method := "POST", path := r.path path, body := .data message } with
  | .error f => return .error f
  | .ok none => return .ok none
  | .ok (some (status, v)) => return .ok (if 200 ≤ status && status < 300 then some v else none)

def scriptsOf (v : Json) : Except Fault (List Script) := do
  let reply ← Message.orFault (Message.SelectReply.ofJson v)
  reply.scripts.mapM Message.Payload.toScript

/-- Asks for the batch of a page for a phase. -/
def select (line : Line σ) (r : Remote) (url phase : Json) : StateM σ (Except Fault (List Script)) := do
  let request := do
    let p ← Phase.ofJson phase
    Message.orFault (Message.SelectRequest.ofJson (.obj [("url", url), ("phase", .str p.name)]))
  match request with
  | .error f => return .error f
  | .ok m =>
    match ← post line r Endpoint.select.path m.toJson with
    | .error f => return .error f
    | .ok none => return .error (.unavailable ("Engine at " ++ r.address ++ " unavailable"))
    | .ok (some v) => return scriptsOf v

def report (line : Line σ) (r : Remote) (id ok error : Json) : StateM σ (Except Fault Unit) := do
  match Message.orFault (Message.RunReport.ofJson (.obj [("scriptId", id), ("ok", ok), ("error", error)])) with
  | .error f => return .error f
  | .ok m =>
    match ← post line r Endpoint.report.path m.toJson with
    | .error f => return .error f
    | .ok none => return .error (.unavailable ("Run report for script " ++ id.display ++ " not delivered"))
    | .ok (some _) => return .ok ()

def dataOf (r : Reply) : Nat × Json :=
  (r.status, match r.content with
    | .data v => v
    | _ => .null)

/-- The line to an engine that gets every request. -/
def direct : Line Engine := fun request => do
  return ((← (answer request).run).map fun reply => some (dataOf reply))

end Remote
end Userscript.Api
