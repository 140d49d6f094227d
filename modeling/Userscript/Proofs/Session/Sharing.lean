import Userscript.Proofs.Json.Plain
import Userscript.Proofs.Session.Alike
import Userscript.Proofs.Url.Address

/-!
# Userscript.Proofs.Session.Sharing

Which pages share what their scripts store.

There is one storage for all pages. Pages of one origin share what is in it: what a script stores on one of them, it
gets on the other. Pages of different origins share nothing: each goes on as if the other were not there.

* `Deed` is what may happen on a page, and `together` lets deeds happen on two pages with one storage;
* `together_apart`: on pages of different origins, whatever happens on one of them leaves the other as it would be;
* `HandsOver` is what it is to share values, and `handsOver`: pages of one origin do;
* `values_shared_iff`: so pages on the web share their values if and only if they are of one place and have the same
  account.
-/

namespace Userscript

open Machine

/-! ## Storage -/

namespace Storage

variable {s t : Storage}

theorem get?_of_set {origin key value : String} (set : s.set origin key value = (.ok (), t)) :
    t.get? origin key = some value := by
  unfold Storage.set at set
  dsimp only at set
  split at set
  · cases set
  · cases set
    rw [Storage.get?, area_areas_set, if_pos rfl]
    exact Fields.get?_set_self _ _ _

/-- A value that was set, and of which the log has nothing to say, is read back as its image. -/
theorem Scope.get?_of_set {scope : Scope} {k v : Datum} (set : scope.set k v s = (.ok (), t, [])) :
    ∃ j, v.toJson = .ok j ∧ scope.get? k t = .ok (some j.image) := by
  unfold Scope.set at set
  unfold Scope.get?
  cases named : scope.key k with
  | error e => simp [named] at set
  | ok name =>
    cases json : v.toJson with
    | error e => simp [named, json, refusal] at set
    | ok j =>
      rw [named, json] at set
      dsimp only at set
      split at set
      · next kept =>
        cases set
        dsimp only
        rw [Storage.get?_of_set kept]
        dsimp only
        rw [Json.read_text fun _ => Datum.writable_of_toJson v j json]
        exact ⟨j, rfl, rfl⟩
      · cases set

end Storage

/-! ## Deeds -/

namespace Session

variable {σ : Type} {set : Setting σ} {o p : String} {base : Storage} {s t u v : Session σ}

/-- What may happen on a page: a move of the page, or a step of the code of a script. -/
inductive Deed (σ : Type) where
  | move (m : Move σ)
  | code (script : Script) (x : Act Value)

/-- Scripts run on pages only whose origin can be told. -/
def does (set : Setting σ) : Deed σ → Session σ → Session σ
  | .move m, s => s.move set m
  | .code script x, s =>
    match s.document.origin with
    | .ok origin => (s.act set (authorOf set origin script) x).2
    | .error _ => s

def doesAll (set : Setting σ) (deeds : List (Deed σ)) (s : Session σ) : Session σ :=
  deeds.foldl (fun s d => s.does set d) s

/-- Lets deeds happen on two pages. Each finds the storage as the other left it. -/
def together (set : Setting σ) : List (Deed σ ⊕ Deed σ) → Session σ × Session σ → Session σ × Session σ
  | [], pages => pages
  | .inl d :: rest, (s, t) => together set rest (s.does set d, t.withStorage (s.does set d).storage)
  | .inr d :: rest, (s, t) => together set rest (s.withStorage (t.does set d).storage, t.does set d)

theorem Alike.does (set : Setting σ) (h : Alike o base s t) (d : Deed σ) :
    Alike o base (s.does set d) (t.does set d) := by
  cases d with
  | move m => exact h.move set m
  | code script x =>
    have known : t.document.origin = .ok o := by
      rw [h.document]
      exact h.known
    simp only [Session.does, h.known, known]
    exact (h.act set rfl x).2

/-! ## Pages of different origins -/

/-- Two pages of different origins, with one storage: each goes on as it would alone. -/
theorem together_apart (apart : o ≠ p) (deeds : List (Deed σ ⊕ Deed σ)) (h : Alike o s.storage u s)
    (h' : Alike p t.storage v t) (one : t.storage = s.storage) :
    let pages := together set deeds (s, t)
    Alike o pages.1.storage (u.doesAll set (deeds.filterMap Sum.getLeft?)) pages.1 ∧
      Alike p pages.2.storage (v.doesAll set (deeds.filterMap Sum.getRight?)) pages.2 := by
  induction deeds generalizing s t u v with
  | nil => exact ⟨h, h'⟩
  | cons d rest ih =>
    -- What the deed spares is counted from the storage that it found, so each step begins anew with that.
    cases d with
    | inl d =>
      have acts := (h.does set d).rebase
      exact ih acts (h'.spared apart (one ▸ (h.does set d).beyond)) rfl
    | inr d =>
      have acts := (h'.does set d).rebase
      exact ih (h.spared apart.symm (one ▸ (h'.does set d).beyond)) acts rfl

/-! ## Pages of one origin -/

/-- The pages stay where they are, and have one storage. -/
theorem together_one (set : Setting σ) (deeds : List (Deed σ ⊕ Deed σ)) (h : s.IsOf o) (h' : t.IsOf p)
    (one : t.storage = s.storage) :
    let pages := together set deeds (s, t)
    pages.1.IsOf o ∧ pages.2.IsOf p ∧ pages.2.storage = pages.1.storage := by
  induction deeds generalizing s t with
  | nil => exact ⟨h, h', one⟩
  | cons d rest ih =>
    cases d with
    | inl d => exact ih ((Alike.of_isOf h).does set d).toIsOf ⟨h'.known, h'.own⟩ rfl
    | inr d => exact ih ⟨h.known, h.own⟩ ((Alike.of_isOf h').does set d).toIsOf rfl

/-- What a set comes to for the storage, if no fault reaches the script. -/
theorem scope_set_of_act {a : Author} {key value w : Value}
    (acted : s.act set a (Invoke.setValue key value) = (.ok w, t)) :
    ∃ log, a.scope.set (s.memory.datum key) (s.memory.datum value) s.storage = (.ok (), t.storage, log) ∧
      t.log = s.log ++ log := by
  simp only [act, Invoke.setValue, Dialogue.host] at acted
  generalize a.scope.set (s.memory.datum key) (s.memory.datum value) s.storage = answer at *
  obtain ⟨fault | ⟨⟩, storage, log⟩ := answer
  · have raised : Except.error _ = Except.ok w := congrArg Prod.fst acted
    cases raised
  · cases acted
    exact ⟨log, rfl, rfl⟩

/-- A get of a value that can be read makes the value. -/
theorem act_getValue {a : Author} {key : Value} {j : Json}
    (found : a.scope.get? (s.memory.datum key) s.storage = .ok (some j)) (default : Value) :
    s.act set a (Invoke.getValue key default) = s.act set a (Invoke.ofJson j) := by
  have asked : (Invoke.getValue key default s.memory).host set a s = (Invoke.ofJson j s.memory).host set a s := by
    rw [Invoke.getValue, Dialogue.host, found]
  rw [act, act, asked]

/-- What a script sets on one page, it gets on the other, which finds the storage as the one left it: the JSON image of
the value, unless a fault reaches the script or the log tells of a refusal. The origins are those of the pages. -/
def HandsOver (set : Setting σ) (o p : String) (s t : Session σ) : Prop :=
  ∀ (script script' : Script) (key key' value : Value) (s' : Session σ),
    script'.id = script.id → t.memory.datum key' = s.memory.datum key →
    s.act set (authorOf set o script) (Invoke.setValue key value) = (.ok .none, s') → s'.log = s.log →
    ∃ j, (s.memory.datum value).toJson = .ok j ∧ ∀ default,
      (t.withStorage s'.storage).act set (authorOf set p script') (Invoke.getValue key' default) =
        (t.withStorage s'.storage).act set (authorOf set p script') (Invoke.ofJson j.image)

theorem handsOver (set : Setting σ) (o : String) (s t : Session σ) : HandsOver set o o s t := by
  intro script script' key key' value s' sameId sameKey acted silent
  obtain ⟨log, stored, told⟩ := scope_set_of_act acted
  have nothing : log = [] := List.self_eq_append_right.mp (silent.symm.trans told)
  subst nothing
  obtain ⟨j, json, there⟩ := Storage.Scope.get?_of_set stored
  -- The two scopes are one, by the id and the origin, so the get looks where the set wrote.
  refine ⟨j, json, act_getValue (s := t.withStorage s'.storage) ?_⟩
  have scope : (authorOf set o script').scope = (authorOf set o script).scope := by
    rw [authorOf, authorOf, sameId]
  have key_eq : (t.withStorage s'.storage).memory.datum key' = s.memory.datum key := sameKey
  rw [scope, key_eq]
  exact there

/-! ## Pages on the web -/

/-- When pages on the web share what their scripts store.

Each page has an origin. Two pages have the same one if and only if they are of one place and have the same account, so
pages of one place are kept apart by their accounts, and by nothing else. Whatever happens on two pages with one
storage, with one origin they share their values, and otherwise each goes on as it would alone, but for what the other
stores in its own area. -/
theorem values_shared_iff (set : Setting σ) {a b : Url.Address} (webA : a.IsWeb) (webB : b.IsWeb)
    (hereA : s.document.url = a.text) (hereB : t.document.url = b.text)
    (ownA : ∀ o, s.document.origin = .ok o → ∀ j ∈ s.queue, j.IsOf o)
    (ownB : ∀ p, t.document.origin = .ok p → ∀ j ∈ t.queue, j.IsOf p) (one : t.storage = s.storage) :
    ∃ o p, s.document.origin = .ok o ∧ t.document.origin = .ok p ∧
      (o = p ↔ a.SamePlace b ∧ a.account = b.account) ∧
      ∀ deeds, let (s', t') := together set deeds (s, t)
        (s'.document.origin = .ok o ∧ t'.document.origin = .ok p ∧ t'.storage = s'.storage) ∧
        (o = p → HandsOver set o p s' t' ∧ HandsOver set p o t' s') ∧
        (o ≠ p → Alike o s'.storage (s.doesAll set (deeds.filterMap Sum.getLeft?)) s' ∧
          Alike p t'.storage (t.doesAll set (deeds.filterMap Sum.getRight?)) t') := by
  have same := webA.origin_eq_iff webB
  rw [← hereA, ← hereB] at same
  obtain ⟨o, known⟩ : ∃ o, s.document.origin = .ok o := ⟨_, (congrArg Url.origin hereA).trans webA.origin_text⟩
  obtain ⟨p, known'⟩ : ∃ p, t.document.origin = .ok p := ⟨_, (congrArg Url.origin hereB).trans webB.origin_text⟩
  -- From here on each page has its origin, and jobs for scripts of that origin only.
  have isOf : s.IsOf o := ⟨known, ownA o known⟩
  have isOf' : t.IsOf p := ⟨known', ownB p known'⟩
  refine ⟨o, p, known, known', ?_, fun deeds => ⟨?_, ?_, ?_⟩⟩
  · rw [← same]
    change o = p ↔ s.document.origin = t.document.origin
    rw [known, known', Except.ok.injEq]
  · obtain ⟨first, second, shared⟩ := together_one set deeds isOf isOf' one
    exact ⟨first.known, second.known, shared⟩
  · rintro rfl
    exact ⟨handsOver set o _ _, handsOver set o _ _⟩
  · exact fun apart => together_apart apart deeds (.of_isOf isOf) (.of_isOf isOf') one

/-- Two pages of one place, one of them with user information: what a script stores there, it does not find on the
other. -/
theorem values_shared_iff_account :
    let set : Setting Unit :=
      { bridge :=
          { select := fun _ _ s => (.ok [], [], s), laps := fun _ => 0, report := fun _ _ s => (.ok (), s) } }
    let a : Url.Address := {
      scheme := "https".toList, user := "user@".toList, host := "a.test".toList, tail := "/".toList }
    let b : Url.Address := { scheme := "https".toList, host := "a.test".toList, tail := "/".toList }
    let page (a : Url.Address) : Session Unit :=
      { document := { url := a.text }, storage := ⟨100, []⟩, relay := .new [] "" true, engine := () }
    let stores : Deed Unit := .code { id := some 1 } (Invoke.setValue (.str "n") (.int 7))
    let (s, t) := together set [.inl stores] (page a, page b)
    a.text = "https://user@a.test/" ∧ b.text = "https://a.test/" ∧ a.SamePlace b ∧
      s.document.origin = .ok "https://user@a.test" ∧ t.document.origin = .ok "https://a.test" ∧
      t.storage.get? "https://user@a.test" "musp_1_n" = some "7" ∧
      t.storage.get? "https://a.test" "musp_1_n" = none := by
  intro set a b page stores
  have unsigned : ("user".toList.all fun c => !Url.isSign c) = true := by decide
  have webA : a.IsWeb := by
    constructor
    case scheme => exact .inr (by decide)
    case user =>
      refine .inr ⟨"user".toList, rfl, Text.isAscii_of_all (by decide), fun c mem => ?_⟩
      simpa using List.all_eq_true.mp unsigned c mem
    case host => exact List.all_eq_true.mp (by decide)
    case port => exact .inl rfl
    case tail => exact fun c here => Option.some.inj here ▸ rfl
  have webB : b.IsWeb := { webA with user := .inl rfl }
  have place : a.SamePlace b := ⟨rfl, by decide, rfl⟩
  obtain ⟨o, p, first, second, same, course⟩ := values_shared_iff set webA webB (s := page a) (t := page b) rfl rfl
    (fun _ _ => nofun) (fun _ _ => nofun) rfl
  have apart : o ≠ p := fun one => absurd (same.mp one).2 (by decide)
  have here : (page a).document.origin = .ok "https://user@a.test" :=
    webA.origin_text.trans (congrArg Except.ok (by decide))
  have there : (page b).document.origin = .ok "https://a.test" :=
    webB.origin_text.trans (congrArg Except.ok (by decide))
  obtain rfl : "https://user@a.test" = o := Except.ok.inj (here.symm.trans first)
  obtain rfl : "https://a.test" = p := Except.ok.inj (there.symm.trans second)
  obtain ⟨⟨stayed, stayed', -⟩, -, alone⟩ := course [.inl stores]
  have area := (alone apart).2.storage.area
  refine ⟨by decide, by decide, place, stayed, stayed', by decide +kernel, ?_⟩
  rw [Storage.get?, area]
  rfl

end Session
end Userscript
