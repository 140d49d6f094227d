import Userscript.Proofs.Storage.Keys
import Userscript.Proofs.Storage.Quota
import Userscript.Session.Batch

/-!
# Userscript.Proofs.Session.Confined

What a script cannot reach.

A script acts on its page through a dialogue only, so it is enough to say of each question what it may change;
a whole run changes no more than that, whether it comes to its end or not, and so do capabilities that are called
in any order.

* `Scope.Within`: storages that differ in the values of one script at most;
* `Document.addStyles`: styles in a row, all of one owner, numbered from the next number on;
* `Confined` is what an author may change of a page, `confined_host` says that no dialogue changes more;
* `Act.Grows`: steps that only add to memory, which all capabilities do;
* `calls_confined`: what calls of capabilities leave as it was.
-/

namespace Userscript

open Machine

/-! ## Storage -/

namespace Storage

variable {s t u : Storage} {scope : Scope} {origin key other value : String}

theorem get?_set_of_ne (apart : other ≠ key) : (s.set origin key value).2.get? origin other = s.get? origin other := by
  unfold Storage.set get?
  dsimp only
  split
  · rw [area_areas_set, if_pos rfl]
  · rw [area_areas_set, if_pos rfl]
    exact Fields.get?_set_of_ne _ _ apart

namespace Scope

/-- What the keys of a scope's own values begin with. -/
def ownStart (scope : Scope) : String := scope.keyStart ++ scope.owner.display ++ "_"

/-- Storages that differ at most in the values of a scope. -/
structure Within (scope : Scope) (s t : Storage) : Prop where
  quota : t.quota = s.quota
  area : ∀ origin, origin ≠ scope.origin → t.area origin = s.area origin
  get? : ∀ key, (∀ text, key ≠ scope.ownStart ++ text) → t.get? scope.origin key = s.get? scope.origin key

namespace Within

theorem refl (scope : Scope) (s : Storage) : scope.Within s s := ⟨rfl, fun _ _ => rfl, fun _ _ => rfl⟩

theorem trans (h : scope.Within s t) (h' : scope.Within t u) : scope.Within s u where
  quota := h'.quota.trans h.quota
  area o apart := (h'.area o apart).trans (h.area o apart)
  get? k foreign := (h'.get? k foreign).trans (h.get? k foreign)

/-- Values of another script are not within the scope of a script. -/
theorem get?_keyText {keyStart : String} {id j : Option Int} (h : (Scope.mk keyStart (ownerOf id) origin).Within s t)
    (apart : j ≠ id) (text : String) :
    t.get? origin (keyText keyStart j text) = s.get? origin (keyText keyStart j text) :=
  h.get? _ fun _ same => apart (keyText_injective same).1

end Within

theorem key_eq {k : Datum} {name : String} (h : scope.key k = .ok name) : name = scope.ownStart ++ k.display := by
  unfold key at h
  split at h
  · cases h
    rfl
  · cases h

/-- An entry under a key of a scope's own is set, or refused. -/
theorem within_storage_set {name : String} (own : ∃ text, name = scope.ownStart ++ text) (value : String)
    (s : Storage) : scope.Within s (s.set scope.origin name value).2 where
  quota := quota_set
  area _ apart := area_set_of_ne apart
  get? _ foreign := get?_set_of_ne fun same => own.elim fun text named => foreign text (same.trans named)

/-- Setting a value, whether it is kept or not, changes the values of its scope at most. -/
theorem within_set (scope : Scope) (k value : Datum) (s : Storage) : scope.Within s (scope.set k value s).2.1 := by
  unfold set
  split
  · exact .refl scope s
  · next name named =>
    split
    · exact .refl scope s
    · next v _ =>
      have own := within_storage_set ⟨k.display, key_eq named⟩ v.text s
      split
      · next h =>
        rw [h] at own
        exact own
      · next h =>
        rw [h] at own
        exact own

end Scope
end Storage

/-! ## Styles -/

namespace Page.Document

variable {ℓ : Type} {d : Document ℓ} {owner : Option Int}

def addStyles (owner : Option Int) (sheets : List String) (d : Document ℓ) : Document ℓ :=
  sheets.foldl (fun d css => d.addStyle css owner) d

/-- Styles are numbered in the order of adding, and the next number is free. -/
structure Numbered (d : Document ℓ) : Prop where
  ascending : (d.styles.map Style.number).Pairwise (· < ·)
  below : ∀ x ∈ d.styles, x.number < d.nextStyle

theorem Numbered.addStyle (h : d.Numbered) (css : String) : (d.addStyle css owner).Numbered where
  ascending := by
    change ((d.styles ++ [Style.mk d.nextStyle owner css]).map Style.number).Pairwise (· < ·)
    rw [List.map_append, List.map_singleton, List.pairwise_append]
    refine ⟨h.ascending, List.pairwise_singleton _ _, fun m old n new => ?_⟩
    obtain ⟨x, mem, rfl⟩ := List.mem_map.mp old
    rw [List.mem_singleton.mp new]
    exact h.below x mem
  below x mem := by
    change x.number < d.nextStyle + 1
    rcases List.mem_append.mp mem with before | new
    · exact Nat.lt_succ_of_lt (h.below x before)
    · rw [List.mem_singleton.mp new]
      exact Nat.lt_succ_self _

theorem Numbered.addStyles (h : d.Numbered) (sheets : List String) : (d.addStyles owner sheets).Numbered := by
  induction sheets generalizing d with
  | nil => exact h
  | cons css rest ih => exact ih (h.addStyle css)

/-- Nothing but styles and the next number changes. -/
theorem addStyles_eq (owner : Option Int) (sheets : List String) (d : Document ℓ) :
    d.addStyles owner sheets =
      { d with styles := (d.addStyles owner sheets).styles, nextStyle := (d.addStyles owner sheets).nextStyle } := by
  induction sheets generalizing d with
  | nil => rfl
  | cons css rest ih => exact ih (d.addStyle css owner)

/-- What styles in a row come to: those that were there, then theirs, numbered from the next number on. -/
theorem styles_addStyles (owner : Option Int) (sheets : List String) (d : Document ℓ) :
    ∃ added, (d.addStyles owner sheets).styles = d.styles ++ added ∧ (∀ x ∈ added, x.owner = owner) ∧
      added.map Style.css = sheets ∧ added.map Style.number = List.range' d.nextStyle added.length := by
  induction sheets generalizing d with
  | nil => exact ⟨[], (List.append_nil _).symm, nofun, rfl, rfl⟩
  | cons css rest ih =>
    obtain ⟨added, styles, owned, texts, numbers⟩ := ih (d.addStyle css owner)
    refine ⟨⟨d.nextStyle, owner, css⟩ :: added, ?_, ?_, congrArg (css :: ·) texts,
      congrArg (d.nextStyle :: ·) numbers⟩
    · exact styles.trans (List.append_assoc _ _ _)
    · exact List.forall_mem_cons.mpr ⟨rfl, owned⟩

end Page.Document

/-! ## The page -/

namespace Session

variable {σ α β : Type} {set : Setting σ} {a : Author} {s t u : Session σ}

/-- What an author may change of a page: values within its scope, styles of its own behind all others, requests of
its own behind what waits, and the memory and the log. All else is as it was, what the network saw included. -/
structure Confined (a : Author) (s t : Session σ) : Prop where
  storage : a.scope.Within s.storage t.storage
  document : ∃ sheets, t.document = s.document.addStyles a.id sheets
  queue : ∃ requests : List Relay.Details, t.queue = s.queue ++ requests.map (.request a)
  log : s.log <+: t.log
  rest : t = { s with
    document := t.document, storage := t.storage, memory := t.memory, queue := t.queue, noted := t.noted, log := t.log }

namespace Confined

theorem refl (a : Author) (s : Session σ) : Confined a s s :=
  ⟨.refl _ _, ⟨[], rfl⟩, ⟨[], (List.append_nil _).symm⟩, List.prefix_refl _, rfl⟩

theorem trans (h : Confined a s t) (h' : Confined a t u) : Confined a s u where
  storage := h.storage.trans h'.storage
  document := by
    obtain ⟨before, first⟩ := h.document
    obtain ⟨after, second⟩ := h'.document
    refine ⟨before ++ after, ?_⟩
    rw [second, first, Page.Document.addStyles, Page.Document.addStyles, Page.Document.addStyles, List.foldl_append]
  queue := by
    obtain ⟨before, first⟩ := h.queue
    obtain ⟨after, second⟩ := h'.queue
    refine ⟨before ++ after, ?_⟩
    rw [second, first, List.map_append, List.append_assoc]
  log := h.log.trans h'.log
  rest := h'.rest.trans (congrArg (fun x : Session σ => { x with
    document := u.document, storage := u.storage, memory := u.memory, queue := u.queue, noted := u.noted
    log := u.log }) h.rest)

theorem withMemory (h : Confined a s t) (m : Memory) : Confined a s { t with memory := m } where
  storage := h.storage
  document := h.document
  queue := h.queue
  log := h.log
  rest := congrArg (fun x : Session σ => { x with memory := m }) h.rest

/-! One question of a dialogue at a time. -/

theorem addStyle (css : String) (s : Session σ) :
    Confined a s { s with document := s.document.addStyle css a.id } :=
  ⟨.refl _ _, ⟨[css], rfl⟩, ⟨[], (List.append_nil _).symm⟩, List.prefix_refl _, rfl⟩

theorem setValue (key value : Datum) (s : Session σ) :
    let (_, storage, log) := a.scope.set key value s.storage
    Confined a s { s with storage, log := s.log ++ log } :=
  ⟨Storage.Scope.within_set a.scope key value s.storage, ⟨[], rfl⟩, ⟨[], (List.append_nil _).symm⟩,
    List.prefix_append _ _, rfl⟩

theorem send (d : Relay.Details) (s : Session σ) : Confined a s (s.push (.request a d)) :=
  ⟨.refl _ _, ⟨[], rfl⟩, ⟨[d], rfl⟩, List.prefix_refl _, rfl⟩

theorem write (line : LogLine) (s : Session σ) : Confined a s (s.write line) :=
  ⟨.refl _ _, ⟨[], rfl⟩, ⟨[], (List.append_nil _).symm⟩, List.prefix_append _ _, rfl⟩

theorem note (n : Nat) (args : List Value) (s : Session σ) :
    Confined a s { s with noted := s.noted ++ [(n, args)] } :=
  ⟨.refl _ _, ⟨[], rfl⟩, ⟨[], (List.append_nil _).symm⟩, List.prefix_refl _, rfl⟩

end Confined

/-- No dialogue reaches beyond what its author may change: each question by itself does not, and so on with any
answer. -/
theorem confined_host (d : Dialogue α) (s : Session σ) : Confined a s (d.host set a s).2 := by
  induction d generalizing s with
  | done x => exact .refl a s
  | addStyle css k ih => exact (Confined.addStyle css s).trans (ih _ _)
  | getValue key k ih => exact ih _ _
  | setValue key v k ih => exact (Confined.setValue key v s).trans (ih _ _)
  | send details k ih => exact (Confined.send details s).trans (ih _ _)
  | print text k ih => exact (Confined.write _ s).trans (ih _ _)
  | foreign n args k ih => exact (Confined.note n args s).trans (ih _ _)

theorem confined_act (set : Setting σ) (a : Author) (x : Act α) (s : Session σ) : Confined a s (s.act set a x).2 :=
  (confined_host (x s.memory) s).withMemory _

/-- A dialogue that goes on after its end is gone through in two parts. -/
theorem host_bind (set : Setting σ) (a : Author) (d : Dialogue α) (f : α → Dialogue β) (s : Session σ) :
    (d.bind f).host set a s = (f (d.host set a s).1).host set a (d.host set a s).2 := by
  induction d generalizing s with
  | done x => rfl
  | addStyle _ k ih | getValue _ k ih | send _ k ih | print _ k ih => exact ih _ _
  | setValue _ _ k ih | foreign _ _ k ih => exact ih _ _

/-- No question looks at the memory of the page: what a step finds there, it was begun with. -/
theorem host_withMemory (set : Setting σ) (a : Author) (d : Dialogue α) (m : Memory) (s : Session σ) :
    d.host set a { s with memory := m } = ((d.host set a s).1, { (d.host set a s).2 with memory := m }) := by
  induction d generalizing s with
  | done x => rfl
  | addStyle css k ih => exact ih _ { s with document := s.document.addStyle css a.id }
  | getValue key k ih => exact ih _ s
  | setValue key v k ih =>
    exact ih _ { s with
      storage := (a.scope.set key v s.storage).2.1
      log := s.log ++ (a.scope.set key v s.storage).2.2 }
  | send d k ih => exact ih _ (s.push (.request a d))
  | print text k ih => exact ih _ (s.write (.note ("[" ++ a.label ++ "] " ++ text)))
  | foreign n args k ih => exact ih _ { s with noted := s.noted ++ [(n, args)] }

/-- Two steps of the machine are done one after the other, if the first one does not end in trouble. -/
theorem act_bind (set : Setting σ) (a : Author) (x : Act α) (f : α → Act β) (s : Session σ) :
    s.act set a (x >>= f) =
      match s.act set a x with
      | (.ok v, t) => t.act set a (f v)
      | (.error trouble, t) => (.error trouble, t) := by
  have inTurn : (x >>= f) s.memory = (x s.memory).bind _ := rfl
  unfold act
  rw [inTurn, host_bind]
  generalize (x s.memory).host set a s = r
  obtain ⟨⟨trouble | w, m⟩, u⟩ := r
  · rfl
  · simp only [host_withMemory]

theorem act_bind_ok {x : Act α} {v : α} (first : s.act set a x = (.ok v, t)) (f : α → Act β) :
    s.act set a (x >>= f) = t.act set a (f v) := by
  rw [act_bind, first]

theorem act_bind_error {x : Act α} {trouble : Trouble} (first : s.act set a x = (.error trouble, t)) (f : α → Act β) :
    s.act set a (x >>= f) = (.error trouble, t) := by
  rw [act_bind, first]

/-- The code of a script, however its run ends. -/
theorem confined_runCode (set : Setting σ) (origin : String) (script : Script) (s : Session σ) :
    Confined (authorOf set origin script) s (s.runCode set origin script).2 := by
  unfold runCode
  split
  · exact .refl _ s
  · next p _ =>
    have acted := confined_act set (authorOf set origin script) (p.start capabilities) s
    split
    · next h =>
      rw [h] at acted
      exact acted
    · next h =>
      rw [h] at acted
      exact acted

end Session

/-! ## Memory -/

namespace Machine

variable {α β : Type}

/-- Memory that was only added to. -/
structure Memory.Grows (m n : Memory) : Prop where
  get? : ∀ r o, m.get? r = some o → n.get? r = some o
  styles : m.styles <+: n.styles
  handling : n.handling = m.handling

namespace Memory.Grows

theorem refl (m : Memory) : m.Grows m := ⟨fun _ _ h => h, List.prefix_refl _, rfl⟩

theorem trans {m n k : Memory} (h : m.Grows n) (h' : n.Grows k) : m.Grows k where
  get? r o there := h'.get? r o (h.get? r o there)
  styles := h.styles.trans h'.styles
  handling := h'.handling.trans h.handling

theorem push (o : Object) (m : Memory) : m.Grows (m.push o) where
  get? r o' there := by
    have inside : r < m.objects.size := (Array.getElem?_eq_some_iff.mp there).1
    exact (Array.getElem?_push_lt inside).trans ((Array.getElem?_eq_getElem inside).symm.trans there)
  styles := List.prefix_refl _
  handling := rfl

end Memory.Grows

/-- Whatever it is answered, a dialogue ends in what a predicate holds of. -/
def Dialogue.EndsIn (P : α → Prop) : Dialogue α → Prop
  | .done x => P x
  | .addStyle _ k => ∀ x, (k x).EndsIn P
  | .getValue _ k => ∀ x, (k x).EndsIn P
  | .setValue _ _ k => ∀ x, (k x).EndsIn P
  | .send _ k => ∀ x, (k x).EndsIn P
  | .print _ k => ∀ x, (k x).EndsIn P
  | .foreign _ _ k => ∀ x, (k x).EndsIn P

namespace Dialogue.EndsIn

variable {P Q : α → Prop} {R : β → Prop}

theorem imp {d : Dialogue α} (h : d.EndsIn P) (weaker : ∀ x, P x → Q x) : d.EndsIn Q := by
  induction d with
  | done x => exact weaker x h
  | addStyle _ k ih | getValue _ k ih | send _ k ih | print _ k ih => exact fun x => ih x (h x)
  | setValue _ _ k ih | foreign _ _ k ih => exact fun x => ih x (h x)

theorem bind {d : Dialogue α} {f : α → Dialogue β} (h : d.EndsIn P) (next : ∀ x, P x → (f x).EndsIn R) :
    (d.bind f).EndsIn R := by
  induction d with
  | done x => exact next x h
  | addStyle _ k ih | getValue _ k ih | send _ k ih | print _ k ih => exact fun x => ih x (h x)
  | setValue _ _ k ih | foreign _ _ k ih => exact fun x => ih x (h x)

theorem host {σ : Type} {set : Setting σ} {a : Author} {d : Dialogue α} (h : d.EndsIn P) (s : Session σ) :
    P (d.host set a s).1 := by
  induction d generalizing s with
  | done x => exact h
  | addStyle _ k ih | getValue _ k ih | send _ k ih | print _ k ih => exact ih _ (h _) _
  | setValue _ _ k ih | foreign _ _ k ih => exact ih _ (h _) _

end Dialogue.EndsIn

/-- A step that only adds to memory, whether it gives a result or trouble. -/
def Act.Grows (x : Act α) : Prop := ∀ m : Memory, (x m).EndsIn fun r => m.Grows r.2

namespace Act.Grows

theorem pure (a : α) : Grows (Act.pure a) := fun m => .refl m

theorem fail (t : Trouble) : Grows (Act.fail t : Act α) := fun m => .refl m

theorem bind {x : Act α} {f : α → Act β} (hx : Grows x) (hf : ∀ a, Grows (f a)) : Grows (x >>= f) := by
  intro m
  refine (hx m).bind fun r grown => ?_
  obtain ⟨r, n⟩ := r
  cases r with
  | ok a => exact (hf a n).imp fun _ more => grown.trans more
  | error t => exact grown

theorem look (f : Memory → α) : Grows (Act.look f) := fun m => .refl m

theorem make (o : Object) : Grows (Act.make o) := fun m => .push o m

theorem raise (kind text : String) : Grows (Act.raise kind text : Act α) := (make _).bind fun _ => fail _

theorem lift (r : Except (String × String) α) : Grows (Act.lift r) := by
  cases r with
  | ok a => exact pure a
  | error e => exact raise _ _

theorem written (text : Memory → Value → String) (v : Value) : Grows (Act.written text v) :=
  (look id).bind fun _ => lift _

/-! ## Capabilities -/

mutual

theorem ofJson (j : Json) : Grows (Invoke.ofJson j) := by
  cases j with
  | arr items =>
    rw [Invoke.ofJson]
    exact (ofItems items).bind fun _ => make _
  | obj fields =>
    rw [Invoke.ofJson]
    exact (ofFields fields).bind fun _ => make _
  | _ =>
    rw [Invoke.ofJson]
    exact pure _

theorem ofItems (items : List Json) : Grows (Invoke.ofItems items) := by
  cases items with
  | nil =>
    rw [Invoke.ofItems]
    exact pure _
  | cons j rest =>
    rw [Invoke.ofItems]
    exact (ofJson j).bind fun _ => (ofItems rest).bind fun _ => pure _

theorem ofFields (fields : List (String × Json)) : Grows (Invoke.ofFields fields) := by
  cases fields with
  | nil =>
    rw [Invoke.ofFields]
    exact pure _
  | cons field rest =>
    obtain ⟨name, j⟩ := field
    rw [Invoke.ofFields]
    exact (ofJson j).bind fun _ => (ofFields rest).bind fun _ => pure _

end

theorem addStyle (css : String) : Grows (Invoke.addStyle css) := fun m _ =>
  ⟨(Memory.Grows.push _ m).get?, List.prefix_append _ _, rfl⟩

theorem getValue (key default : Value) : Grows (Invoke.getValue key default) := by
  intro m answer
  match answer with
  | .ok none => exact .refl m
  | .ok (some j) => exact ofJson j m
  | .error e => exact raise e.kind e.message m

theorem setValue (key value : Value) : Grows (Invoke.setValue key value) := by
  intro m answer
  match answer with
  | .ok _ => exact .refl m
  | .error e => exact raise e.kind e.message m

theorem send (details : Value) : Grows (Invoke.send details) := by
  cases details with
  | ref r =>
    refine (look _).bind fun found => ?_
    match found with
    | none => exact raise _ _
    | some o =>
      cases o with
      | dict entries => exact fun m _ => .refl m
      | _ => exact raise _ _
  | _ => exact raise _ _

/-- A capability only adds to memory, whatever it is called with. -/
theorem capability (c : Capability) (args : List Value) (named : Arity.Named) :
    Grows (Invoke.capability c args named) := by
  unfold Invoke.capability
  refine (lift _).bind fun values => ?_
  cases c with
  | addStyle => exact (written _ _).bind addStyle
  | getValue => exact getValue _ _
  | setValue => exact setValue _ _
  | send => exact send _

end Act.Grows
end Machine

/-! ## Calls -/

namespace Session

variable {σ : Type} {set : Setting σ} {a : Author} {s t : Session σ}

/-- A call of a capability, with whatever arguments, and with whatever the script has made of its memory by
then. -/
structure Call where
  memory : Memory := {}
  capability : Capability
  arguments : List Value
  named : Arity.Named := []

/-- What a call comes to, and the page after it. -/
def Call.perform (set : Setting σ) (a : Author) (c : Call) (s : Session σ) : Except Trouble Value × Session σ :=
  act set a (Invoke.capability c.capability c.arguments c.named) { s with memory := c.memory }

/-- The page after calls in a row, whatever each of them comes to. -/
def called (set : Setting σ) (a : Author) (calls : List Call) (s : Session σ) : Session σ :=
  calls.foldl (fun s c => (c.perform set a s).2) s

theorem confined_perform_call (c : Call) (s : Session σ) : Confined a s (c.perform set a s).2 :=
  ((Confined.refl a s).withMemory c.memory).trans (confined_act set a _ _)

theorem confined_called (calls : List Call) (s : Session σ) : Confined a s (s.called set a calls) := by
  induction calls generalizing s with
  | nil => exact .refl a s
  | cons c rest ih => exact (confined_perform_call c s).trans (ih _)

theorem grows_perform_call (c : Call) (s : Session σ) : c.memory.Grows (c.perform set a s).2.memory :=
  Dialogue.EndsIn.host (Act.Grows.capability c.capability c.arguments c.named c.memory) _

/-- The styles of a page that a script was at: those that were there, then its own, each with a higher number than
all before it. -/
theorem Confined.styles (h : Confined a s t) :
    ∃ added, t.document.styles = s.document.styles ++ added ∧ (∀ x ∈ added, x.owner = a.id) ∧
      added.map Page.Style.number = List.range' s.document.nextStyle added.length ∧
      (s.document.Numbered → t.document.Numbered ∧ ∀ x ∈ added, ∀ y ∈ s.document.styles, y.number < x.number) := by
  obtain ⟨sheets, grown⟩ := h.document
  rw [grown]
  obtain ⟨added, styles, owned, -, numbers⟩ := Page.Document.styles_addStyles a.id sheets s.document
  refine ⟨added, styles, owned, numbers, fun numbered => ⟨numbered.addStyles sheets, fun x mem y old => ?_⟩⟩
  have fromNext : x.number ∈ List.range' s.document.nextStyle added.length :=
    numbers ▸ List.mem_map_of_mem mem
  exact Nat.lt_of_lt_of_le (numbered.below y old) (List.mem_range'_1.mp fromNext).1

end Session
end Userscript
