import Mathlib.Data.Bool.Count
import Mathlib.Logic.Function.Basic
import Userscript.Proofs.Catalog.Ids
import Userscript.Proofs.Catalog.Reading
import Userscript.Proofs.Catalog.Rows

/-!
# Userscript.Proofs.Catalog.SideBySide

Two scripts that are added to one catalog at the same time.

An addition reads the catalog and then saves it with its script at the end. Each of the two is one step that nothing
comes between (`Stage.step`), and without anything between the two steps they are `Store.addScript`
(`step_step_eq_addScript`). Of two additions, one can read between the two steps of the other.

* `Holding`: the catalog that the store holds, and that it may be saved again;
* `step_begun` and `step_read`: what each step does to a store that holds a catalog;
* `additions_keep_all_iff`: two additions keep each other's script if and only if one of them has ended before the
  other begins.
-/

namespace Userscript.Catalog

/-! ## The next id -/

/-- The id that a script gets which is appended. -/
def nextId (l : List Script) : Int := largest (l.map (·.id)) + 1

/-- A script without an id, once it is appended to a catalog. -/
def appended (l : List Script) (s : Script) : Script := { s with id := some (nextId l) }

theorem assignIds_append_next {l : List Script} (hids : ∀ t ∈ l, ∃ n, t.id = some n)
    (hdistinct : (l.map (·.id)).Nodup) {s : Script} (hs : s.id = none) :
    assignIds (l ++ [s]) = .ok (l ++ [appended l s]) := by
  rcases Numbered.assignIds_append ⟨hids, hdistinct⟩ s with ⟨n, has, -⟩ | ⟨-, given⟩
  · rw [hs] at has
    cases has
  · rw [given, hs]
    rfl

/-- Scripts as a catalog holds them, each under an id of its own. -/
structure IsCatalog (l : List Script) : Prop where
  saved : ∀ s ∈ l, Database.IsSaved s
  distinct : (l.map (·.id)).Nodup

namespace IsCatalog

variable {l : List Script} {s : Script}

theorem keyed_append (h : IsCatalog l) (hs : s.Kept) (hrange : Database.inRange (nextId l) = true) :
    ∀ t ∈ l ++ [appended l s], Database.IsKeyed t :=
  List.forall_mem_append.2 ⟨fun t ht => (h.saved t ht).keyed, List.forall_mem_singleton.2 ⟨hs, _, rfl, hrange⟩⟩

theorem append (h : IsCatalog l) (hs : s.Kept) (hrange : Database.inRange (nextId l) = true) :
    IsCatalog (l ++ [(appended l s).normal]) where
  saved := by
    have hnew := h.keyed_append hs hrange _ (List.mem_append_right l List.mem_cons_self)
    exact List.forall_mem_append.2 ⟨h.saved, List.forall_mem_singleton.2 hnew.normal⟩
  distinct := by
    rw [List.map_append, List.map_singleton, ← List.concat_eq_append, List.nodup_concat]
    refine ⟨fun hmem => ?_, h.distinct⟩
    have hle : nextId l ≤ largest (l.map (·.id)) := le_largest hmem
    rw [nextId] at hle
    omega

theorem nextId_append (l : List Script) (s : Script) : nextId (l ++ [(appended l s).normal]) = nextId l + 1 := by
  have hid : (appended l s).normal.id = some (largest (l.map (·.id)) + 1) := rfl
  rw [nextId, List.map_append, List.map_singleton, hid, largest_append_next]
  rfl

end IsCatalog

namespace Store

/-! ## The steps of an addition -/

/-- How far an addition has come. -/
inductive Stage where
  | begun
  /-- The catalog is read. -/
  | read (scripts : List Script)
  | ended (answer : Except Fault Script)

def Stage.step (script : Script) : Stage → Store → Stage × Store
  | .begun, s =>
    match runOn catalog s with
    | (.ok scripts, t) => (.read scripts, t)
    | (.error f, t) => (.ended (.error f), t)
  | .read scripts, s =>
    let (saved, t) := runOn (saveScripts (scripts ++ [script])) s
    (.ended (saved.map fun saved => saved.getLastD script), t)
  | .ended answer, s => (.ended answer, s)

theorem step_step_eq_addScript (script : Script) (s : Store) :
    (Stage.begun.step script s).1.step script (Stage.begun.step script s).2 =
      (.ended (runOn (addScript script) s).1, (runOn (addScript script) s).2) := by
  rw [addScript, runOn_bind, Stage.step]
  rcases runOn catalog s with ⟨_ | scripts, t⟩
  · rfl
  · dsimp only
    rw [runOn_bind, Stage.step]
    rcases runOn (saveScripts (scripts ++ [script])) t with ⟨_ | saved, u⟩ <;> rfl

/-- A store on a database that shows a catalog and refuses certain ids. -/
def Shows (refused : List Int) (l : List Script) (s : Store) : Prop :=
  ∃ d n time, s = upon d n time ∧ d.Live ∧ d.refused = refused ∧ Database.scriptsIn d.seen.scripts = .ok l

/-- What the answer of a save says that puts a script at the end of a catalog: the store shows what was saved,
whatever it showed before, and the save is answered if nothing is refused. -/
structure Appends (refused : List Int) (l : List Script) (new : Script) (answer : Except Fault Script)
    (t : Store) : Prop where
  ok : ∀ a, answer = .ok a → a = appended l new ∧ Database.inRange (nextId l) = true ∧
    Shows refused (l ++ [(appended l new).normal]) t
  total : refused = [] → Database.inRange (nextId l) = true → ∃ a, answer = .ok a

section Steps

variable {refused : List Int} {l shown : List Script} {s : Store} {new : Script}

theorem Shows.catalogIn (h : Shows refused l s) : s.catalogIn = .ok l := by
  obtain ⟨d, n, time, rfl, hd, -, hread⟩ := h
  rw [Store.catalogIn, runOn_catalog_upon, Database.runOn_catalog hd]
  exact hread

theorem step_begun (h : Shows refused l s) (new : Script) :
    ∃ t, Stage.begun.step new s = (.read l, t) ∧ Shows refused l t := by
  obtain ⟨d, n, time, rfl, hd, hrefused, hread⟩ := h
  refine ⟨upon d.opened n time, ?_, d.opened, n, time, rfl, d.live_opened, hrefused, hread⟩
  rw [Stage.step, runOn_catalog_upon, Database.runOn_catalog hd, hread]

theorem inRange_of_rowsOf {scripts : List Script} {position : Nat} {rows : List Row} {refused : List Int}
    (hrows : Database.rowsOf position scripts = .ok rows)
    (htaken : rows.findSome? (Database.rowFault? refused) = none) :
    ∀ t ∈ scripts, Database.inRange (t.id.getD 0) = true := by
  induction scripts generalizing position rows with
  | nil => exact List.forall_mem_nil _
  | cons t rest ih =>
    rw [Database.rowsOf] at hrows
    obtain ⟨text, -, hrows⟩ := bind_eq_ok hrows
    obtain ⟨more, hmore, hrows⟩ := bind_eq_ok hrows
    cases hrows
    rw [List.findSome?_cons] at htaken
    cases hrow : Database.rowFault? refused ⟨t.id.getD 0, position, text⟩ with
    | some f =>
      rw [hrow] at htaken
      cases htaken
    | none =>
      rw [hrow] at htaken
      refine List.forall_mem_cons.2 ⟨?_, ih hmore htaken⟩
      cases hkey : Database.inRange (t.id.getD 0) with
      | true => rfl
      | false => simp [Database.rowFault?, hkey] at hrow

theorem step_read (hl : IsCatalog l) (hid : new.id = none) (hkept : new.Kept) (h : Shows refused shown s) :
    ∃ answer t, (Stage.read l).step new s = (.ended answer, t) ∧ Appends refused l new answer t := by
  obtain ⟨d, n, time, rfl, hd, rfl, -⟩ := h
  have hassign := assignIds_append_next (fun t ht => (hl.saved t ht).id.imp fun _ hk => hk.1) hl.distinct hid
  have hrun : runOn (saveScripts (l ++ [new])) (upon d n time) = _ := runOn_saveScripts_upon n time (l ++ [new])
  refine ⟨_, _, by rw [Stage.step, hrun], ?_, ?_⟩
  · rintro a ha
    obtain ⟨saved, hsaved, rfl⟩ := map_eq_ok ha
    rw [Database.runOn_saveScripts hd, hassign] at hsaved ⊢
    dsimp only at hsaved ⊢
    -- An answer was written, so each script had a row and the database took it; hence the new id is a row key.
    cases hrows : Database.rowsOf 0 (l ++ [appended l new]) with
    | error f =>
      rw [hrows] at hsaved
      cases hsaved
    | ok rows =>
      rw [hrows] at hsaved
      dsimp only at hsaved ⊢
      cases htaken : rows.findSome? (Database.rowFault? d.refused) with
      | some f =>
        rw [htaken] at hsaved
        cases f <;> cases hsaved
      | none =>
        rw [htaken] at hsaved
        cases hsaved
        have hrange : Database.inRange (nextId l) = true :=
          inRange_of_rowsOf hrows htaken (appended l new) (List.mem_append_right l List.mem_cons_self)
        have hkeyed := hl.keyed_append hkept hrange
        rw [Database.rowsOf_keyed hkeyed] at hrows
        cases hrows
        refine ⟨List.getLastD_concat .., hrange, _, n, time, rfl, d.live_committed _, rfl, ?_⟩
        have hread : Database.scriptsIn (Database.rowsAt 0 (l ++ [appended l new])) = .ok _ :=
          Database.scriptsIn_rowsAt_keyed hkeyed
        rw [List.map_append, Database.map_normal hl.saved, List.map_singleton] at hread
        exact hread
  · intro hrefused hrange
    rw [Database.runOn_saveScripts_keyed hd hrefused hassign (hl.keyed_append hkept hrange)]
    exact ⟨_, rfl⟩

end Steps

/-! ## Two additions -/

/-- Two additions to one store, told apart by a truth value. -/
structure Race where
  store : Store
  stage : Bool → Stage

namespace Race

/-- Two additions that are about to begin. -/
def start (s : Store) : Race := ⟨s, fun _ => .begun⟩

/-- One of the two additions has come to a stage, and left a store. -/
def set (i : Bool) (stage : Stage) (store : Store) (r : Race) : Race := ⟨store, Function.update r.stage i stage⟩

/-- One of the two additions takes its next step. -/
def step (new : Bool → Script) (r : Race) (i : Bool) : Race :=
  let (stage, store) := (r.stage i).step (new i) r.store
  r.set i stage store

/-- The additions take their steps in the order given. -/
def run (new : Bool → Script) (order : List Bool) (r : Race) : Race := order.foldl (step new) r

/-- Both additions were answered with a script. -/
def Returned (r : Race) : Prop := ∀ i, ∃ a, r.stage i = .ended (.ok a)

/-- The catalog has the scripts that it had and both new ones, as they are read, and the new ones differ in their
ids. -/
def KeepsAll (l : List Script) (r : Race) : Prop :=
  ∃ (a : Bool → Script) (saved : List Script), (∀ i, r.stage i = .ended (.ok (a i))) ∧ (a false).id ≠ (a true).id ∧
    r.store.catalogIn = .ok saved ∧ (∀ s ∈ l, s ∈ saved) ∧ ∀ i, (a i).normal ∈ saved

section Set

variable (i : Bool) (stage stage' : Stage) (t u : Store) (r : Race)

@[simp] theorem store_set : (r.set i stage t).store = t := rfl

@[simp] theorem stage_set_self : (r.set i stage t).stage i = stage := Function.update_self ..

@[simp] theorem stage_set_not : (r.set i stage t).stage (!i) = r.stage !i :=
  Function.update_of_ne (by cases i <;> decide) _ _

@[simp] theorem stage_not_set : (r.set (!i) stage t).stage i = r.stage i :=
  Function.update_of_ne (by cases i <;> decide) _ _

@[simp] theorem set_set : (r.set i stage t).set i stage' u = r.set i stage' u := by
  simp only [set, Function.update_idem]

end Set

theorem stage_step_not (new : Bool → Script) (r : Race) (i : Bool) : (r.step new !i).stage i = r.stage i :=
  stage_not_set ..

theorem step_eq {new : Bool → Script} {r : Race} {i : Bool} {stage : Stage} {t : Store}
    (h : (r.stage i).step (new i) r.store = (stage, t)) : r.step new i = r.set i stage t := by
  rw [step, h]

/-- In an order in which each addition takes two steps, one addition does both at once, or both read first. -/
theorem orders {order : List Bool} (h : ∀ i, order.count i = 2) :
    ∃ i, order = [i, i, !i, !i] ∨ ∃ w, order = [i, !i, w, !w] := by
  have hlength : order.length = 4 := by rw [← List.count_true_add_count_false, h true, h false]
  match order, hlength with
  | [a, b, c, d], _ =>
    revert h
    revert a b c d
    decide

section Outcomes

variable {refused : List Int} {l : List Script} {new : Bool → Script} {r : Race} {i : Bool} (hl : IsCatalog l)
  (hnew : ∀ i, (new i).id = none ∧ (new i).Kept)

include hl hnew

theorem save_read (hstage : r.stage i = .read l) {shown : List Script} (h : Shows refused shown r.store) :
    ∃ answer t, r.step new i = r.set i (.ended answer) t ∧ Appends refused l (new i) answer t := by
  obtain ⟨answer, t, hstep, hfacts⟩ := step_read hl (hnew i).1 (hnew i).2 h
  exact ⟨answer, t, step_eq (by rw [hstage, hstep]), hfacts⟩

/-- An addition that nothing comes between. -/
theorem add_alone (hstage : r.stage i = .begun) (h : Shows refused l r.store) :
    ∃ answer t, (r.step new i).step new i = r.set i (.ended answer) t ∧ Appends refused l (new i) answer t := by
  obtain ⟨t, hbegun, hshows⟩ := step_begun h (new i)
  have hread : r.step new i = r.set i (.read l) t := step_eq (by rw [hstage, hbegun])
  obtain ⟨answer, u, hsave, hfacts⟩ := save_read hl hnew (r.stage_set_self i (.read l) t) hshows
  exact ⟨answer, u, by rw [hread, hsave, set_set], hfacts⟩

/-- One addition after the other: the second one gets the id after the first one's, and the catalog has both. -/
theorem one_by_one {s : Store} (h : Shows refused l s) (i : Bool) :
    ((run new [i, i, !i, !i] (start s)).Returned →
      ∃ a b, (run new [i, i, !i, !i] (start s)).stage i = .ended (.ok a) ∧
        (run new [i, i, !i, !i] (start s)).stage (!i) = .ended (.ok b) ∧
        a.id = some (nextId l) ∧ b.id = some (nextId l + 1) ∧
        Shows refused (l ++ [a.normal, b.normal]) (run new [i, i, !i, !i] (start s)).store) ∧
    (refused = [] → Database.inRange (nextId l) = true → Database.inRange (nextId l + 1) = true →
      (run new [i, i, !i, !i] (start s)).Returned) := by
  obtain ⟨answer, t, hfirst, happends⟩ := add_alone hl hnew (r := start s) (i := i) rfl h
  have hrun : run new [i, i, !i, !i] (start s) = ((((start s).step new i).step new i).step new !i).step new !i := rfl
  rw [hrun, hfirst]
  cases answer with
  | error f =>
    constructor
    · intro hreturned
      obtain ⟨a, ha⟩ := hreturned i
      rw [stage_step_not, stage_step_not, stage_set_self] at ha
      cases ha
    · intro hrefused hrange _
      obtain ⟨a, ha⟩ := happends.total hrefused hrange
      cases ha
  | ok a =>
    obtain ⟨rfl, hrange, hshows⟩ := happends.ok a rfl
    -- The first addition has ended, so the second one reads the catalog that it left.
    have hbegun : ((start s).set i (.ended (.ok (appended l (new i)))) t).stage (!i) = .begun := stage_set_not ..
    obtain ⟨answer', u, hsecond, happends'⟩ := add_alone (hl.append (hnew i).2 hrange) hnew hbegun hshows
    rw [hsecond]
    constructor
    · intro hreturned
      obtain ⟨b, hb⟩ := hreturned !i
      rw [stage_set_self] at hb
      cases hb
      obtain ⟨rfl, -, hshows'⟩ := happends'.ok b rfl
      refine ⟨_, _, by rw [stage_not_set, stage_set_self], stage_set_self .., rfl, ?_, ?_⟩
      · exact congrArg some (IsCatalog.nextId_append l (new i))
      · rw [List.append_assoc] at hshows'
        exact hshows'
    · intro hrefused _ hrange' j
      obtain ⟨b, rfl⟩ := happends'.total hrefused (IsCatalog.nextId_append l (new i) ▸ hrange')
      rcases Bool.eq_or_eq_not j i with rfl | rfl
      · exact ⟨_, by rw [stage_not_set, stage_set_self]⟩
      · exact ⟨b, stage_set_self ..⟩

/-- Both additions read before one of them saves: both get one id, and the script that is saved first is lost. -/
theorem both_read {s : Store} (h : Shows refused l s) (i w : Bool) :
    ((run new [i, !i, w, !w] (start s)).Returned →
      (∀ j, (run new [i, !i, w, !w] (start s)).stage j = .ended (.ok (appended l (new j)))) ∧
      Shows refused (l ++ [(appended l (new !w)).normal]) (run new [i, !i, w, !w] (start s)).store) ∧
    (refused = [] → Database.inRange (nextId l) = true → (run new [i, !i, w, !w] (start s)).Returned) := by
  obtain ⟨t, hread, hshows⟩ := step_begun h (new i)
  obtain ⟨u, hread', hshows'⟩ := step_begun hshows (new !i)
  have hfirst : (start s).step new i = (start s).set i (.read l) t := step_eq hread
  have hsecond : ((start s).set i (.read l) t).step new (!i) = ((start s).set i (.read l) t).set (!i) (.read l) u :=
    step_eq (by rw [stage_set_not]; exact hread')
  -- Both have read the same catalog, so that the order of the saves no longer matters for what they give away.
  have hboth (j : Bool) : (((start s).set i (.read l) t).set (!i) (.read l) u).stage j = .read l := by
    rcases Bool.eq_or_eq_not j i with rfl | rfl
    · rw [stage_not_set, stage_set_self]
    · rw [stage_set_self]
  have hrun : run new [i, !i, w, !w] (start s) = ((((start s).step new i).step new !i).step new w).step new !w := rfl
  rw [hrun, hfirst, hsecond]
  generalize hr : ((start s).set i (.read l) t).set (!i) (.read l) u = r at hboth ⊢
  have hstore : Shows refused l r.store := hr ▸ hshows'
  obtain ⟨answer, v, hsave, happends⟩ := save_read hl hnew (hboth w) hstore
  rw [hsave]
  cases answer with
  | error f =>
    constructor
    · intro hreturned
      obtain ⟨a, ha⟩ := hreturned w
      rw [stage_step_not, stage_set_self] at ha
      cases ha
    · intro hrefused hrange
      obtain ⟨a, ha⟩ := happends.total hrefused hrange
      cases ha
  | ok a =>
    obtain ⟨rfl, hrange, hshows''⟩ := happends.ok a rfl
    have hother : (r.set w (.ended (.ok (appended l (new w)))) v).stage (!w) = .read l := by
      rw [stage_set_not, hboth]
    obtain ⟨answer', x, hsave', happends'⟩ := save_read hl hnew hother hshows''
    rw [hsave']
    constructor
    · intro hreturned
      obtain ⟨b, hb⟩ := hreturned !w
      rw [stage_set_self] at hb
      cases hb
      obtain ⟨rfl, -, hlast⟩ := happends'.ok b rfl
      refine ⟨fun j => ?_, hlast⟩
      rcases Bool.eq_or_eq_not j w with rfl | rfl
      · rw [stage_not_set, stage_set_self]
      · rw [stage_set_self]
    · intro hrefused _ j
      obtain ⟨b, rfl⟩ := happends'.total hrefused hrange
      rcases Bool.eq_or_eq_not j w with rfl | rfl
      · exact ⟨_, by rw [stage_not_set, stage_set_self]⟩
      · exact ⟨b, stage_set_self ..⟩

end Outcomes

theorem run_alone (new : Bool → Script) (i : Bool) (s : Store) :
    run new [i, i] (start s) =
      (start s).set i (.ended (runOn (addScript (new i)) s).1) (runOn (addScript (new i)) s).2 := by
  have hsteps := step_step_eq_addScript (new i) s
  have hrun : run new [i, i] (start s) = ((start s).step new i).step new i := rfl
  have hfirst : (start s).step new i = (start s).set i (Stage.begun.step (new i) s).1 (Stage.begun.step (new i) s).2 :=
    rfl
  rw [hrun, hfirst, step_eq (by rw [stage_set_self, store_set, hsteps]), set_set]

end Race

open Race

/-- What becomes of two scripts that are added at the same time. Let a catalog be on a database, each script under an
id of its own, and let the two steps of one addition and the two of another be taken in any order. If they are taken
one after the other, an addition is `addScript`. If the ids are row keys that the database takes, both additions are
answered. If both are answered, the catalog has the old scripts and both new ones under different ids if and only if
one addition ended before the other began. If both read the catalog before one of them saves it, both are answered with
one id, and the catalog is left without the script that was saved first. -/
theorem additions_keep_all_iff {d : Database} (hd : d.Live) (clock : Nat) (time : Nat → Json) {l : List Script}
    (hread : Database.scriptsIn d.seen.scripts = .ok l) (hl : IsCatalog l) {new : Bool → Script}
    (hnew : ∀ i, (new i).id = none ∧ (new i).Kept) {order : List Bool} (horder : ∀ i, order.count i = 2) :
    let s := upon d clock time
    let r := run new order (start s)
    (∀ i, run new [i, i] (start s) =
      (start s).set i (.ended (runOn (addScript (new i)) s).1) (runOn (addScript (new i)) s).2) ∧
    (d.refused = [] → Database.inRange (nextId l) = true → Database.inRange (nextId l + 1) = true → r.Returned) ∧
    (r.Returned →
      (r.KeepsAll l ↔ ∃ i, order = [i, i, !i, !i]) ∧
      ∀ i w, order = [i, !i, w, !w] →
        (∀ j, r.stage j = .ended (.ok (appended l (new j)))) ∧
        r.store.catalogIn = .ok (l ++ [(appended l (new !w)).normal])) := by
  intro s r
  have hshows : Shows d.refused l s := ⟨d, clock, time, rfl, hd, rfl, hread⟩
  refine ⟨fun i => run_alone new i s, ?_, ?_⟩
  · intro hrefused hrange hrange'
    obtain ⟨i, rfl | ⟨w, rfl⟩⟩ := orders horder
    · exact (one_by_one hl hnew hshows i).2 hrefused hrange hrange'
    · exact (both_read hl hnew hshows i w).2 hrefused hrange
  · intro hreturned
    -- Two turns of each addition: either one ends before the other begins, or both read first.
    have hlost (i w : Bool) (h : order = [i, !i, w, !w]) :
        (∀ j, r.stage j = .ended (.ok (appended l (new j)))) ∧
          Shows d.refused (l ++ [(appended l (new !w)).normal]) r.store := by
      subst h
      exact (both_read hl hnew hshows i w).1 hreturned
    refine ⟨⟨?_, ?_⟩, fun i w h => ⟨(hlost i w h).1, (hlost i w h).2.catalogIn⟩⟩
    · rintro ⟨a, saved, hended, hids, -⟩
      obtain ⟨i, h | ⟨w, h⟩⟩ := orders horder
      · exact ⟨i, h⟩
      · have hsame (j : Bool) : a j = appended l (new j) := by
          have := (hended j).symm.trans ((hlost i w h).1 j)
          injection this with this
          exact Except.ok.inj this
        rw [hsame, hsame] at hids
        exact absurd rfl hids
    · rintro ⟨i, rfl⟩
      obtain ⟨a, b, ha, hb, hida, hidb, hshows'⟩ := (one_by_one hl hnew hshows i).1 hreturned
      have hdiffer : a.id ≠ b.id := by
        rw [hida, hidb]
        intro h
        have := Option.some.inj h
        omega
      refine ⟨fun j => if j = i then a else b, _, fun j => ?_, ?_, hshows'.catalogIn, fun t ht => ?_, fun j => ?_⟩
      · rcases Bool.eq_or_eq_not j i with rfl | rfl
        · simpa using ha
        · simpa using hb
      · cases i with
        | false => simpa using hdiffer
        | true => simpa using hdiffer.symm
      · exact List.mem_append_left _ ht
      · rcases Bool.eq_or_eq_not j i with rfl | rfl
        · simp
        · simp

/-- Two scripts that are added to a catalog of one script, each addition reading before the other saves: both are
answered with the id 2, and the first one is lost. -/
theorem additions_lose_script :
    let old : Script := { id := some 1, code := .str "pass" }
    let new : Bool → Script := fun i => { code := .str (if i then "second" else "first") }
    let d : Database := { disk := { scripts := Database.rowsAt 0 [old] } }
    let r := run new [false, true, false, true] (start (upon d 0))
    (∀ i, r.stage i = .ended (.ok { new i with id := some 2 })) ∧
    r.store.catalogIn = .ok [old, { new true with id := some 2 }] ∧ ¬ r.KeepsAll [old] := by
  intro old new d r
  have hnull : Json.IsKept .null := Json.isKept_null
  have hold : IsCatalog [old] := by
    have hnormal : old.IsNormal := {
      code := rfl
      runAt := rfl
      matchPatterns := List.forall_mem_nil _
      includePatterns := List.forall_mem_nil _
      excludePatterns := List.forall_mem_nil _
      kept := ⟨Json.isKept_str "pass", hnull, hnull, hnull⟩ }
    exact ⟨List.forall_mem_singleton.2 ⟨hnormal, 1, rfl, rfl⟩, List.nodup_singleton _⟩
  have hread : Database.scriptsIn d.seen.scripts = .ok [old] := Database.scriptsIn_rowsAt hold.saved
  have hnew (i : Bool) : (new i).id = none ∧ (new i).Kept := ⟨rfl, Json.isKept_str _, hnull, hnull, hnull⟩
  have hlive : d.Live := fun h => by cases h
  have horder : ∀ i, [false, true, false, true].count i = 2 := by decide
  have hreturned : r.Returned := (additions_keep_all_iff hlive 0 counting hread hold hnew horder).2.1 rfl rfl rfl
  have hkeeps := ((additions_keep_all_iff hlive 0 counting hread hold hnew horder).2.2 hreturned).1
  have hlost := ((additions_keep_all_iff hlive 0 counting hread hold hnew horder).2.2 hreturned).2 false false rfl
  refine ⟨hlost.1, hlost.2, fun h => ?_⟩
  obtain ⟨i, hi⟩ := hkeeps.1 h
  cases i <;> cases hi

end Store
end Userscript.Catalog
