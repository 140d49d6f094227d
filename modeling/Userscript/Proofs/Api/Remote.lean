import Userscript.Proofs.Api.Messages
import Userscript.Proofs.Session.Local

/-!
# Userscript.Proofs.Api.Remote

The engine over a line against the engine in the house.

* `select_ok`, `select_unavailable` and `report_accepted`: what a host gets of what the engine does;
* `Call` is what a page host asks, `Call.inHouse` of an engine in the house and `Call.overLine` of one at an address;
* `agree_call`: two engines over equal stores agree about a call, and their stores stay equal;
* `overLine_agrees`: so they do about any calls.
-/

namespace Userscript.Api

open Engine (Uses)

variable {limits : Glob.Limits} {contents : Contents} {r : Remote} {e t : Engine}

/-! ## Requests that reach the engine -/

namespace Remote

/-- The engine is at the root of its address. -/
def AtRoot (r : Remote) : Prop := ∀ e : Endpoint, r.path e.path = e.path

theorem atRoot_of_bare {a : Net.Address} (read : Net.Address.ofText r.address = .ok a)
    (bare : dropSlashes a.path = "") : r.AtRoot := by
  intro e
  rw [path, read]
  dsimp only
  rw [bare, String.empty_append]

def requestOf (endpoint : Endpoint) (message : Json) : Request :=
  { method := "POST", path := endpoint.path, body := .data message }

/-- What a host takes from a reply: its data, if it is a success. -/
def taken (reply : Reply) : Option Json :=
  if 200 ≤ reply.status && reply.status < 300 then some (dataOf reply).2 else none

theorem run_post (atRoot : r.AtRoot) (endpoint : Endpoint) (message : Json) (e : Engine) :
    (post direct r endpoint.path message).run e =
      ((runOn (answer (requestOf endpoint message)) e).1.map taken,
        (runOn (answer (requestOf endpoint message)) e).2) := by
  rw [requestOf, runOn]
  simp only [post, direct, atRoot endpoint, StateT.run_bind, StateT.run_pure]
  rcases (answer { method := "POST", path := endpoint.path, body := .data message }).run.run e with
    ⟨_ | reply, t⟩ <;> rfl

end Remote

/-- A message that was posted gets to where it belongs. -/
theorem withMessage_requestOf {α : Type} {check : Json → Message.Checked α} {fields : Fields Json} {m : α}
    (endpoint : Endpoint) (read : check (.obj fields) = .ok m) (work : α → Engine.Work Reply) :
    withMessage check (Remote.requestOf endpoint (.obj fields)) work = work m := by
  rw [withMessage, Request.message, Remote.requestOf, Request.data]
  dsimp only
  rw [read]
  rfl

/-- The engine after a fault that it answers for. -/
def faulted (f : Fault) (e : Engine) : Engine :=
  { e with log := e.log ++ [.fail ("[API] " ++ (f.kind ++ ": " ++ f.message))] }

/-- A message that is posted to its endpoint gets the reply of the endpoint, or that of a fault. -/
theorem runOn_answer {endpoint : Endpoint} (posted : endpoint.method = "POST") (message : Json) (e : Engine) :
    runOn (answer (Remote.requestOf endpoint message)) e =
      match runOn (endpoint.respond (Remote.requestOf endpoint message)) e with
      | (.ok reply, t) => (.ok reply, t)
      | (.error f, t) => if f.isOwn then (.ok (faultReply f), faulted f t) else (.error f, t) := by
  have there : route "POST" endpoint.path = .endpoint endpoint := by
    revert posted
    cases endpoint <;> decide
  have whole : answer (Remote.requestOf endpoint message) =
      (tryCatch (endpoint.respond (Remote.requestOf endpoint message)) (fun f => do
        if f.isOwn then
          logged (f.kind ++ ": " ++ f.message)
          return faultReply f
        else throw f)) := by
    have same : answer (Remote.requestOf endpoint message) =
        ((route "POST" endpoint.path).respond (Remote.requestOf endpoint message) >>= fun reply => pure reply) := rfl
    rw [same, there, bind_pure]
    rfl
  rw [whole, runOn_tryCatch]
  rcases runOn (endpoint.respond (Remote.requestOf endpoint message)) e with ⟨f | reply, t⟩
  · dsimp only
    split <;> rfl
  · rfl

/-! ## Selecting -/

namespace Remote

theorem run_select (line : Line Engine) (url : String) (phase : Phase) (e : Engine) :
    (select line r (.str url) (.str phase.name)).run e =
      match (post line r Endpoint.select.path (Message.SelectRequest.toJson ⟨url, phase⟩)).run e with
      | (.error f, t) => (.error f, t)
      | (.ok none, t) => (.error (.unavailable ("Engine at " ++ r.address ++ " unavailable")), t)
      | (.ok (some v), t) => (scriptsOf v, t) := by
  have named : Phase.ofJson (.str phase.name) = .ok phase := by cases phase <;> rfl
  have asked : Message.SelectRequest.ofJson (.obj [("url", .str url), ("phase", .str phase.name)]) =
      .ok ⟨url, phase⟩ := by
    rw [Message.SelectRequest.ofJson, Message.fieldsOf, Message.required_eq_ok Message.reads_text rfl,
      Message.required_eq_ok Message.reads_phase rfl]
    rfl
  have request : (do
      let p ← Phase.ofJson (.str phase.name)
      Message.orFault (Message.SelectRequest.ofJson (.obj [("url", .str url), ("phase", .str p.name)]))) =
      (.ok ⟨url, phase⟩ : Except Fault Message.SelectRequest) := by
    rw [named]
    exact congrArg Message.orFault asked
  rw [select, request]
  simp only [StateT.run_bind]
  rcases (post line r Endpoint.select.path (Message.SelectRequest.toJson ⟨url, phase⟩)).run e with
    ⟨_ | _ | v, t⟩ <;> rfl

end Remote

theorem respond_select (m : Message.SelectRequest) :
    Endpoint.respond (Remote.requestOf .select m.toJson) .select = Api.select m :=
  withMessage_requestOf .select (Message.SelectRequest.reads m) Api.select

theorem select_ok (atRoot : r.AtRoot) {url : String} {phase : Phase} {l : List Script}
    (typed : ∀ s ∈ l, s.IsWellTyped)
    (selected : runOn (Engine.select (.str url) (.str phase.name)) e = (.ok l, t)) :
    (Remote.select Remote.direct r (.str url) (.str phase.name)).run e = (.ok l, t) := by
  obtain ⟨ps, there, back⟩ := scriptsOf_reply typed
  have replied : runOn (Api.select ⟨url, phase⟩) e = (.ok (ok (Message.SelectReply.mk ps).toJson), t) := by
    rw [Api.select, runOn_bind_ok selected, there]
    rfl
  rw [Remote.run_select, Remote.run_post atRoot, runOn_answer rfl, respond_select, replied]
  exact congrArg (·, t) back

theorem select_unavailable (atRoot : r.AtRoot) {url : String} {phase : Phase} {reason : String}
    (selected : runOn (Engine.select (.str url) (.str phase.name)) e = (.error (.unavailable reason), t)) :
    (Remote.select Remote.direct r (.str url) (.str phase.name)).run e =
      (.error (.unavailable ("Engine at " ++ r.address ++ " unavailable")), faulted (.unavailable reason) t) := by
  have failed : runOn (Api.select ⟨url, phase⟩) e = (.error (.unavailable reason), t) := by
    rw [Api.select, runOn_bind_error selected]
  have own : (Fault.unavailable reason).isOwn = true := rfl
  rw [Remote.run_select, Remote.run_post atRoot, runOn_answer rfl, respond_select, failed]
  dsimp only
  rw [if_pos own]
  rfl

/-! ## Reports -/

theorem respond_report (m : Message.RunReport) :
    Endpoint.respond (Remote.requestOf .report m.toJson) .report = Api.report m :=
  withMessage_requestOf .report (Message.RunReport.reads m) Api.report

theorem record_store (m : Message.RunReport) (e : Engine) :
    ∃ log, runOn (record m) e = (.ok (), { e with
      store := (runOn (Catalog.Store.recordRun m.scriptId m.ok (Message.orNull .str m.error)) e.store).2, log }) := by
  rw [record, runOn_tryCatch, Engine.runOn_onStore]
  rcases runOn (Catalog.Store.recordRun m.scriptId m.ok (Message.orNull .str m.error)) e.store with ⟨f | _, store⟩
  · exact ⟨_, rfl⟩
  · exact ⟨e.log, rfl⟩

theorem report_accepted (atRoot : r.AtRoot) (id : Int) (ok : Bool) (error : Option String) (e : Engine) :
    ∃ log, (Remote.report Remote.direct r (.int id) (.bool ok) (Message.orNull .str error)).run e =
      (.ok (), { e with
        store := (runOn (Catalog.Store.recordRun id ok (Message.orNull .str error)) e.store).2, log }) := by
  obtain ⟨log, recorded⟩ := record_store ⟨id, ok, error⟩ e
  have told : Message.RunReport.ofJson
      (.obj [("scriptId", .int id), ("ok", .bool ok), ("error", Message.orNull .str error)]) = .ok ⟨id, ok, error⟩ := by
    rw [Message.RunReport.ofJson, Message.fieldsOf, Message.required_eq_ok Message.reads_integer rfl,
      Message.required_eq_ok Message.reads_truth rfl, Message.field_eq_ok Message.reads_text_orNull rfl]
    rfl
  have replied : runOn (Api.report ⟨id, ok, error⟩) e = (.ok ⟨202, .data (.obj [("accepted", .bool true)])⟩, { e with
      store := (runOn (Catalog.Store.recordRun id ok (Message.orNull .str error)) e.store).2, log }) := by
    rw [Api.report, runOn_bind_ok recorded, runOn_pure]
  refine ⟨log, ?_⟩
  rw [Remote.report, told]
  simp only [Message.orFault, StateT.run_bind]
  rw [Remote.run_post atRoot, runOn_answer rfl, respond_report, replied]
  rfl

/-! ## Calls -/

/-- What a page host asks of an engine. -/
inductive Call where
  | select (url : String) (phase : Phase)
  | report (id : Int) (ok : Bool) (error : Option String)

/-- What a host gets. -/
inductive Answer where
  | batch (answer : Except Fault (List Script))
  | noted (answer : Except Fault Unit)

def Call.inHouse : Call → StateM Engine Answer
  | select url phase => .batch <$> (Engine.select (.str url) (.str phase.name)).run
  | report id ok error => .noted <$> (Engine.onStore (Catalog.Store.recordRun id ok (Message.orNull .str error))).run

def Call.overLine (r : Remote) : Call → StateM Engine Answer
  | select url phase => .batch <$> Remote.select Remote.direct r (.str url) (.str phase.name)
  | report id ok error =>
    .noted <$> Remote.report Remote.direct r (.int id) (.bool ok) (Message.orNull .str error)

/-- The catalog or the settings that a batch is made of cannot be read. Nothing is read for what is no web page. -/
def Unreadable (contents : Contents) (url : String) : Prop := Url.isWeb url = true ∧ ∃ f, contents = .error f

/-- Two hosts get the same of a call: the same scripts, or both that the catalog cannot be reached, if it cannot be
read. A report over a line is always accepted. -/
inductive Agree (contents : Contents) : Call → Answer → Answer → Prop where
  | batch {url : String} {phase : Phase} (readable : ¬Unreadable contents url) (scripts : List Script) :
    Agree contents (.select url phase) (.batch (.ok scripts)) (.batch (.ok scripts))
  | unavailable {url : String} {phase : Phase} (unreadable : Unreadable contents url) (reason told : String) :
    Agree contents (.select url phase) (.batch (.error (.unavailable reason))) (.batch (.error (.unavailable told)))
  | noted {id : Int} {ok : Bool} {error : Option String} (answer : Except Fault Unit) :
    Agree contents (.report id ok error) (.noted answer) (.noted (.ok ()))

/-- They get the same of each of some calls. -/
inductive AgreeAll (contents : Contents) : List Call → List Answer → List Answer → Prop where
  | nil : AgreeAll contents [] [] []
  | cons {call : Call} {near far : Answer} {calls : List Call} {nears fars : List Answer}
    (first : Agree contents call near far) (rest : AgreeAll contents calls nears fars) :
    AgreeAll contents (call :: calls) (near :: nears) (far :: fars)

/-- Two engines over equal stores. -/
structure Twins (limits : Glob.Limits) (contents : Contents) (near far : Engine) : Prop where
  usesNear : Uses limits contents near
  usesFar : Uses limits contents far
  sameStore : far.store = near.store

/-- The store after a batch was asked for depends on the store before, and on no more than that. -/
theorem store_select (url : String) (phase : Json) (e : Engine) :
    (runOn (Engine.select (.str url) phase) e).2.store = if Url.isWeb url then e.store.consulted else e.store := by
  rw [Engine.select, Url.Given.isWeb]
  cases Url.isWeb url with
  | false => rfl
  | true =>
    change (runOn (Engine.load >>= _) e).2.store = e.store.consulted
    rw [runOn_bind, Engine.runOn_load]
    cases e.store.contents with
    | error f => rfl
    | ok c => exact Engine.keeps_batch (.str url) phase c.1 c.2 { e with store := e.store.consulted } rfl

theorem contents_fault {s : Catalog.Store} {f : Fault} (failed : s.contents = .error f) :
    ∃ reason, f = .unavailable reason := by
  have told {α : Type} {x : Except Fault α} (h : x.mapError Engine.readFault = .error f) :
      ∃ reason, f = .unavailable reason := by
    cases x with
    | ok a => cases h
    | error g =>
      rw [← Except.error.inj h]
      unfold Engine.readFault
      split <;> exact ⟨_, rfl⟩
  rw [Catalog.Store.contents] at failed
  cases catalog : s.catalogIn.mapError Engine.readFault with
  | error g =>
    rw [catalog] at failed
    cases failed
    exact told catalog
  | ok scripts =>
    cases settings : s.settingsIn.mapError Engine.readFault with
    | error g =>
      rw [catalog, settings] at failed
      cases failed
      exact told settings
    | ok settings' =>
      rw [catalog, settings] at failed
      cases failed

/-- An engine that holds scripts of the right types has a batch for each page, unless it cannot read them. -/
theorem select_cases (typed : ∀ c, contents = .ok c → ∀ s ∈ c.1, s.IsWellTyped) (url : String) (phase : Phase)
    (used : Uses limits contents e) :
    (¬Unreadable contents url ∧ ∃ l, (∀ s ∈ l, s.IsWellTyped) ∧
      Answers (Uses limits contents) (Engine.select (.str url) (.str phase.name)) (.ok l)) ∨
    Unreadable contents url ∧ ∃ reason,
      Answers (Uses limits contents) (Engine.select (.str url) (.str phase.name)) (.error (.unavailable reason)) := by
  rcases contents with f | ⟨scripts, settings⟩
  · have answers : Answers (Uses limits (.error f)) _ _ := Engine.answers_select url (.str phase.name)
    obtain ⟨reason, rfl⟩ := contents_fault used.2
    by_cases web : Url.isWeb url = true
    · rw [if_pos web] at answers
      exact .inr ⟨⟨web, _, rfl⟩, reason, answers⟩
    · rw [if_neg web] at answers
      exact .inl ⟨fun unreadable => web unreadable.1, [], List.forall_mem_nil _, answers⟩
  · have each := typed _ rfl
    have wishes (s : Script) (mem : s ∈ scripts) : Engine.IsTyped s := by
      rcases (each s mem).runAt with absent | ⟨wish, -, said⟩
      · exact .inl absent
      · exact .inr ⟨wish, said⟩
    obtain ⟨batch, selected⟩ : ∃ batch, Engine.batchAt limits scripts settings url phase = .ok batch :=
      Engine.exists_batch wishes phase
    have readable : ¬Unreadable (.ok (scripts, settings)) url := by
      rintro ⟨-, f, failed⟩
      cases failed
    refine .inl ⟨readable, batch, fun s mem => each s (Engine.mem_batchAt selected mem), ?_⟩
    rw [← selected]
    exact Engine.answers_batchAt url phase

theorem run_mapped {σ α β : Type} (f : α → β) (x : StateM σ α) (s : σ) :
    (f <$> x).run s = (f (x.run s).1, (x.run s).2) := rfl

theorem run_inHouse_select (url : String) (phase : Phase) (e : Engine) :
    (Call.select url phase).inHouse.run e =
      (.batch (runOn (Engine.select (.str url) (.str phase.name)) e).1,
        (runOn (Engine.select (.str url) (.str phase.name)) e).2) := run_mapped _ _ e

theorem run_overLine_select (r : Remote) (url : String) (phase : Phase) (e : Engine) :
    ((Call.select url phase).overLine r).run e =
      (.batch ((Remote.select Remote.direct r (.str url) (.str phase.name)).run e).1,
        ((Remote.select Remote.direct r (.str url) (.str phase.name)).run e).2) := run_mapped _ _ e

theorem run_inHouse_report (id : Int) (ok : Bool) (error : Option String) (e : Engine) :
    (Call.report id ok error).inHouse.run e =
      (.noted (runOn (Catalog.Store.recordRun id ok (Message.orNull .str error)) e.store).1,
        { e with store := (runOn (Catalog.Store.recordRun id ok (Message.orNull .str error)) e.store).2 }) :=
  run_mapped _ _ e

theorem run_overLine_report (r : Remote) (id : Int) (ok : Bool) (error : Option String) (e : Engine) :
    ((Call.report id ok error).overLine r).run e =
      (.noted ((Remote.report Remote.direct r (.int id) (.bool ok) (Message.orNull .str error)).run e).1,
        ((Remote.report Remote.direct r (.int id) (.bool ok) (Message.orNull .str error)).run e).2) :=
  run_mapped _ _ e

theorem agree_call (atRoot : r.AtRoot) (typed : ∀ c, contents = .ok c → ∀ s ∈ c.1, s.IsWellTyped) {near far : Engine}
    (twins : Twins limits contents near far) (call : Call) :
    Agree contents call (call.inHouse.run near).1 ((call.overLine r).run far).1 ∧
      Twins limits contents (call.inHouse.run near).2 ((call.overLine r).run far).2 := by
  obtain ⟨usesNear, usesFar, sameStore⟩ := twins
  cases call with
  | select url phase =>
    -- What a selection leaves in the store is read off the store alone, so that it does not matter who selects.
    have sameAfter : (runOn (Engine.select (.str url) (.str phase.name)) far).2.store =
        (runOn (Engine.select (.str url) (.str phase.name)) near).2.store := by
      rw [store_select, store_select, sameStore]
    rw [run_inHouse_select, run_overLine_select]
    rcases select_cases typed url phase usesNear with ⟨readable, l, typed, answers⟩ | ⟨unreadable, reason, answers⟩
    · obtain ⟨near', usesNear', ranNear⟩ := answers near usesNear
      obtain ⟨far', usesFar', ranFar⟩ := answers far usesFar
      rw [ranNear, ranFar] at sameAfter
      rw [ranNear, select_ok atRoot typed ranFar]
      exact ⟨.batch readable l, usesNear', usesFar', sameAfter⟩
    · obtain ⟨near', usesNear', ranNear⟩ := answers near usesNear
      obtain ⟨far', usesFar', ranFar⟩ := answers far usesFar
      rw [ranNear, ranFar] at sameAfter
      rw [ranNear, select_unavailable atRoot ranFar]
      exact ⟨.unavailable unreadable reason _, usesNear', usesFar', sameAfter⟩
  | report id ok error =>
    obtain ⟨log, accepted⟩ := report_accepted atRoot id ok error far
    -- The ledger is no part of what is read, so the engines go on to read the same.
    have held : (runOn (Catalog.Store.recordRun id ok (Message.orNull .str error)) near.store).2.contents = contents :=
      (Engine.contents_of_alike (near.store.alike_recordRun id ok _)).trans usesNear.2
    rw [run_inHouse_report, run_overLine_report, accepted, sameStore]
    exact ⟨.noted _, ⟨usesNear.1, held⟩, ⟨usesFar.1, held⟩, rfl⟩

theorem agree_calls (atRoot : r.AtRoot) (typed : ∀ c, contents = .ok c → ∀ s ∈ c.1, s.IsWellTyped) {near far : Engine}
    (twins : Twins limits contents near far) (calls : List Call) :
    AgreeAll contents calls ((calls.mapM Call.inHouse).run near).1 ((calls.mapM (Call.overLine r)).run far).1 ∧
      Twins limits contents ((calls.mapM Call.inHouse).run near).2 ((calls.mapM (Call.overLine r)).run far).2 := by
  induction calls generalizing near far with
  | nil => exact ⟨.nil, twins⟩
  | cons call calls ih =>
    obtain ⟨first, after⟩ := agree_call atRoot typed twins call
    obtain ⟨rest, last⟩ := ih after
    rw [List.mapM_cons, List.mapM_cons]
    exact ⟨.cons first rest, last⟩

end Userscript.Api
