import Userscript.Api.Request
import Userscript.Selection

/-!
# Userscript.Api

The engine as it answers requests over HTTP.

* `Endpoint` is what can be asked, `Api.route` which of it a request asks;
* `Api.answer` is the reply. A fault of the engine's own kinds becomes a reply too, 503 if the engine cannot reach
  its catalog and else 400; any other fault is no reply.

The report of a run is accepted at once, and recorded behind it: a failure to do so is only logged.
-/

namespace Userscript

namespace Api

inductive Endpoint where
  | health | select | report | scripts | runs | settings | explain
deriving DecidableEq

namespace Endpoint

def all : List Endpoint := [health, select, report, scripts, runs, settings, explain]

def path : Endpoint → String
  | health => "/health"
  | select => "/api/select"
  | report => "/api/report"
  | scripts => "/api/scripts"
  | runs => "/api/runs"
  | settings => "/api/settings"
  | explain => "/api/explain"

def method : Endpoint → String
  | select | report => "POST"
  | _ => "GET"

end Endpoint

def version : String := "1.0.0"

/-! ## Routes -/

inductive Route where
  | endpoint (e : Endpoint)
  /-- The path is known, but not for the method. -/
  | notAllowed
  /-- The path is known without the slashes at its end. -/
  | moved
  | unknown
deriving DecidableEq

/-- A path without the slashes at its end. -/
def dropSlashes (path : String) : String :=
  String.ofList (path.toList.reverse.dropWhile (· = '/')).reverse

/-- Where a method and a path lead. -/
def route (method path : String) : Route :=
  match Endpoint.all.find? (·.path = path) with
  | some e => if e.method = method then .endpoint e else .notAllowed
  | none =>
    if Endpoint.all.any fun e => e.path = dropSlashes path then .moved else .unknown

/-! ## Endpoints -/

def ok (v : Json) : Reply := ⟨200, .data v⟩

/-- Scripts on their way to a host. -/
def payloads (scripts : List Script) : Except Fault (List Message.Payload) :=
  scripts.mapM fun s => Message.orFault (Message.Payload.ofScript s)

/-- A line of the engine's log about its replies. -/
def logged (text : String) : Engine.Work Unit :=
  modify fun e => { e with log := e.log ++ [.fail ("[API] " ++ text)] }

/-- The batch of a page for a phase. -/
def select (m : Message.SelectRequest) : Engine.Work Reply := do
  let scripts ← Engine.select (.str m.url) (.str m.phase.name)
  return ok (Message.SelectReply.mk (← payloads scripts)).toJson

/-- Records a run; a failure is logged. -/
def record (m : Message.RunReport) : Engine.Work Unit :=
  tryCatch (Engine.onStore (Catalog.Store.recordRun m.scriptId m.ok (Message.orNull .str m.error)))
    fun f => logged ("Could not record run of script " ++ toString m.scriptId ++ ": " ++ Engine.innerText f)

def report (m : Message.RunReport) : Engine.Work Reply := do
  record m
  return ⟨202, .data (.obj [("accepted", .bool true)])⟩

def scripts : Engine.Work Reply := do
  let all ← Engine.onStore Catalog.Store.catalog
  return ok (.arr ((← payloads all).map Message.Payload.toJson))

def runs : Engine.Work Reply := do
  let all ← Engine.onStore Catalog.Store.runs
  return ok (.obj (all.map fun (id, r) => (toString id, .obj (r.toEntries.map fun (k, v) => (k.display, v)))))

def settings : Engine.Work Reply := do
  return ok (← Engine.onStore Catalog.Store.settings).toJson

/-- What is told of a script and a page. -/
def verdict (v : Engine.Verdict) : Json :=
  .obj [("id", Message.orNull .int v.script.id), ("name", .str v.script.name), ("runAt", v.script.wish),
    ("eligible", .bool v.decision.eligible), ("reason", .str v.decision.reason.name),
    ("pattern", v.decision.pattern.getD .null), ("runnable", .bool v.runnable), ("note", .str v.note)]

/-- Which scripts are in scope for the URL in the query, and why. -/
def explain (r : Request) : Engine.Work Reply := do
  match r.last? "url" with
  | none => return .refused [⟨[.name "query", .name "url"], "missing"⟩]
  | some url => return ok (.arr ((← Engine.explain (.str url)).map verdict))

/-- Takes the message of a request to where it belongs. -/
def withMessage {α : Type} (check : Json → Message.Checked α) (r : Request)
    (work : α → Engine.Work Reply) : Engine.Work Reply :=
  match r.message check with
  | .ok m => work m
  | .error reply => return reply

def Endpoint.respond (r : Request) : Endpoint → Engine.Work Reply
  | health => return ok (.obj [("status", .str "ok"), ("version", .str version)])
  | select => withMessage Message.SelectRequest.ofJson r Api.select
  | report => withMessage Message.RunReport.ofJson r Api.report
  | scripts => Api.scripts
  | runs => Api.runs
  | settings => Api.settings
  | explain => Api.explain r

/-! ## Replies -/

/-- The reply that tells of a fault of the engine's own kinds. -/
def faultReply (f : Fault) : Reply :=
  ⟨if f.kind = "CollaboratorUnavailableError" then 503 else 400,
    .data (.obj [("error", .str f.kind), ("message", .str f.message)])⟩

/-- The reply of where a request leads. -/
def Route.respond (r : Request) : Route → Engine.Work Reply
  | endpoint e => tryCatch (e.respond r) fun f => do
      if f.isOwn then
        logged (f.kind ++ ": " ++ f.message)
        return faultReply f
      else throw f
  | notAllowed => return .detail 405 "Method Not Allowed"
  | moved => return ⟨307, .nothing⟩
  | unknown => return .detail 404 "Not Found"

/-- The reply to a request; one for the head alone has no content. -/
def answer (r : Request) : Engine.Work Reply := do
  let reply ← (route r.method r.path).respond r
  return if r.method = "HEAD" then { reply with content := .nothing } else reply

end Api
end Userscript
