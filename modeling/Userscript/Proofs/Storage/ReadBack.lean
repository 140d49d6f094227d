import Userscript.Proofs.Json.Plain
import Userscript.Proofs.Storage.Areas
import Userscript.Proofs.Storage.Keys

/-!
# Userscript.Proofs.Storage.ReadBack

What scripts read back of what they stored, whatever other scripts and other pages do in between.

* `Call` is a call of the store that one script has on one origin, `replies` what calls in a row come to;
* `lastStored` is the value of the last set that was accepted for a script, an origin and the text of a key;
* `kept_after`: the storage holds the JSON text of that value, and nothing else under that key;
* `values_read_back`: so that is what is read back. A set that is refused is told to the log only, unless the id
  or the key has no text.
-/

namespace Userscript.Storage

/-! ## Calls -/

/-- A call of the store that a script has on an origin. -/
inductive Call where
  | set (id : Option Int) (origin : String) (key value : Datum)
  | get (id : Option Int) (origin : String) (key default : Datum)

/-- What a call comes to: its result or the fault that reaches the script, and what the log says. -/
structure Reply where
  result : Except Fault Datum
  log : Log

/-- What a call comes to, and the storage after it. -/
def Call.perform (keyStart : String) : Call → Storage → Reply × Storage
  | .set id origin k v, s =>
    let (r, s', log) := (Scope.mk keyStart (ownerOf id) origin).set k v s
    (⟨r.map fun _ => .none, log⟩, s')
  | .get id origin k d, s =>
    let r := (Scope.mk keyStart (ownerOf id) origin).get? k s
    (⟨r.map fun found => (found.map Datum.ofJson).getD d, []⟩, s)

def Call.reply (keyStart : String) (c : Call) (s : Storage) : Reply := (c.perform keyStart s).1

def after (keyStart : String) : Storage → List Call → Storage
  | s, [] => s
  | s, c :: rest => after keyStart (c.perform keyStart s).2 rest

/-- What calls in a row come to. -/
def replies (keyStart : String) : Storage → List Call → List Reply
  | _, [] => []
  | s, c :: rest => c.reply keyStart s :: replies keyStart (c.perform keyStart s).2 rest

/-- Whether a call does what it is for, and the log has nothing to say. -/
def Reply.isAccepted (r : Reply) : Bool := r.result.isOk && r.log.isEmpty

/-- Whether a reply is the JSON image of a stored value, or a default if there is none. -/
def Reply.IsImage (r : Reply) (d : Datum) : Option Datum → Prop
  | none => r = ⟨.ok d, []⟩
  | some v => ∃ image, v.jsonImage? = some image ∧ r = ⟨.ok image, []⟩

/-- The value that a call stores for a script, an origin and the text of a key. -/
def Call.stored? (keyStart : String) (id : Option Int) (origin text : String) (s : Storage) (c : Call) :
    Option Datum :=
  match c with
  | .set id' origin' k v =>
    if id' = id ∧ origin' = origin ∧ k.display = text ∧ (c.reply keyStart s).isAccepted then some v else none
  | .get .. => none

/-- The value of the last set in a row that was accepted for a script, an origin and the text of a key. -/
def lastStored (keyStart : String) (id : Option Int) (origin text : String) : Storage → List Call → Option Datum
  | _, [] => none
  | s, c :: rest =>
    (lastStored keyStart id origin text (c.perform keyStart s).2 rest).or (c.stored? keyStart id origin text s)

/-- Whether an id and a key have texts: no integer in them has too many digits. -/
def HasText (id : Option Int) (k : Datum) : Prop := ((ownerOf id).isWritable && k.isWritable) = true

/-- The fault that reaches a script whose id or key has no text. -/
def textless : Fault := .badValue Number.NumeralFault.unwritable.message

variable {keyStart origin : String} {id : Option Int} {k v : Datum} {s : Storage}

/-! ## One call -/

theorem key_of_text (h : HasText id k) :
    (Scope.mk keyStart (ownerOf id) origin).key k = .ok (keyText keyStart id k.display) := if_pos h

theorem key_of_no_text (h : ¬ HasText id k) :
    (Scope.mk keyStart (ownerOf id) origin).key k = .error textless := if_neg h

inductive SetOutcome (keyStart : String) (id : Option Int) (origin : String) (k v : Datum) (s : Storage) :
    Reply × Storage → Prop where
  | textless : ¬ HasText id k → SetOutcome keyStart id origin k v s (⟨.error textless, []⟩, s)
  | refused (line : String) (s' : Storage) : HasText id k →
      (¬ ∃ j, v.toJson = .ok j ∧ s.Fits origin (keyText keyStart id k.display) j.text) → s'.Same s →
      SetOutcome keyStart id origin k v s (⟨.ok .none, [.warn line]⟩, s')
  | accepted (j : Json) (s' : Storage) : HasText id k → v.toJson = .ok j →
      s.Fits origin (keyText keyStart id k.display) j.text →
      (∀ o, s'.area o =
        if o = origin then (s.area origin).set (keyText keyStart id k.display) j.text else s.area o) →
      SetOutcome keyStart id origin k v s (⟨.ok .none, []⟩, s')

theorem set_outcome (hcounted : s.Counted) :
    SetOutcome keyStart id origin k v s ((Call.set id origin k v).perform keyStart s) := by
  unfold Call.perform
  dsimp only
  -- The ways in which a set can end: no key, no JSON text, no room, or an entry that is set.
  by_cases htext : HasText id k
  · rw [Scope.set, key_of_text htext]
    dsimp only
    cases hjson : v.toJson with
    | error e =>
      refine .refused _ s htext ?_ ⟨rfl, fun _ => rfl⟩
      rintro ⟨j, hj, -⟩
      rw [hjson] at hj
      cases hj
    | ok j =>
      dsimp only
      by_cases hfits : s.Fits origin (keyText keyStart id k.display) j.text
      · obtain ⟨hok, harea⟩ := hcounted.set_fits hfits
        generalize s.set origin (keyText keyStart id k.display) j.text = set at *
        obtain ⟨r, s'⟩ := set
        cases hok
        exact .accepted j s' htext hjson hfits harea
      · obtain ⟨⟨needed, herror⟩, harea⟩ := hcounted.set_full hfits
        have hquota := @quota_set s origin (keyText keyStart id k.display) j.text
        generalize s.set origin (keyText keyStart id k.display) j.text = set at *
        obtain ⟨r, s'⟩ := set
        cases herror
        refine .refused _ s' htext ?_ ⟨hquota, harea⟩
        rintro ⟨j', hj', hfits'⟩
        rw [hjson] at hj'
        cases hj'
        exact hfits hfits'
  · rw [Scope.set, key_of_no_text htext]
    exact .textless htext

theorem same_perform {t : Storage} (h : s.Same t) (c : Call) :
    c.reply keyStart s = c.reply keyStart t ∧ (c.perform keyStart s).2.Same (c.perform keyStart t).2 := by
  cases c with
  | get id origin k d =>
    refine ⟨?_, h⟩
    simp only [Call.reply, Call.perform, Scope.get?, Storage.get?, h.area]
  | set id origin k v =>
    unfold Call.reply Call.perform Scope.set
    dsimp only
    cases Scope.key ⟨keyStart, ownerOf id, origin⟩ k with
    | error e => exact ⟨rfl, h⟩
    | ok name =>
      cases v.toJson with
      | error e => exact ⟨rfl, h⟩
      | ok j =>
        obtain ⟨hresult, hsame⟩ := @Same.set s origin name j.text t h
        dsimp only
        generalize s.set origin name j.text = first at *
        generalize t.set origin name j.text = second at *
        obtain ⟨r, s'⟩ := first
        obtain ⟨r', t'⟩ := second
        cases hresult
        cases r with
        | error e => exact ⟨rfl, hsame⟩
        | ok _ => exact ⟨rfl, hsame⟩

theorem same_replies {t : Storage} (h : s.Same t) (calls : List Call) :
    replies keyStart s calls = replies keyStart t calls := by
  induction calls generalizing s t with
  | nil => rfl
  | cons c rest ih =>
    obtain ⟨hreply, hsame⟩ := same_perform h c
    rw [replies, replies, hreply, ih hsame]

/-! ## What the storage holds -/

theorem counted_perform (hcounted : s.Counted) (c : Call) : (c.perform keyStart s).2.Counted := by
  cases c with
  | get => exact hcounted
  | set id origin k v =>
    unfold Call.perform Scope.set
    dsimp only
    cases Scope.key ⟨keyStart, ownerOf id, origin⟩ k with
    | error e => exact hcounted
    | ok name =>
      cases v.toJson with
      | error e => exact hcounted
      | ok j =>
        have hset := @Counted.set s origin name j.text hcounted
        dsimp only
        generalize s.set origin name j.text = set at *
        obtain ⟨r, s'⟩ := set
        cases r with
        | error e => exact hset
        | ok _ => exact hset

/-- The storage holds the JSON text of a value under a script's key, or nothing. -/
def Kept (keyStart : String) (id : Option Int) (origin text : String) (s : Storage) : Option Datum → Prop
  | none => s.get? origin (keyText keyStart id text) = none
  | some v => ∃ j, v.toJson = .ok j ∧ s.get? origin (keyText keyStart id text) = some j.text

theorem Kept.of_get? {text : String} {found : Option Datum} {s' : Storage}
    (h : Kept keyStart id origin text s found)
    (hget : s'.get? origin (keyText keyStart id text) = s.get? origin (keyText keyStart id text)) :
    Kept keyStart id origin text s' found := by
  cases found with
  | none => exact hget.trans h
  | some v =>
    obtain ⟨j, hj, htext⟩ := h
    exact ⟨j, hj, hget.trans htext⟩

theorem kept_perform {text : String} {found : Option Datum} (hcounted : s.Counted)
    (h : Kept keyStart id origin text s found) (c : Call) :
    Kept keyStart id origin text (c.perform keyStart s).2 ((c.stored? keyStart id origin text s).or found) := by
  cases c with
  | get => exact h
  | set id' origin' k v =>
    have hstored : (Call.set id' origin' k v).stored? keyStart id origin text s =
        if id' = id ∧ origin' = origin ∧ k.display = text ∧
            ((Call.set id' origin' k v).perform keyStart s).1.isAccepted then some v else none := rfl
    have houtcome := @set_outcome keyStart origin' id' k v s hcounted
    rw [hstored]
    generalize (Call.set id' origin' k v).perform keyStart s = p at *
    cases houtcome with
    | textless =>
      rw [if_neg fun hall => Bool.false_ne_true hall.2.2.2]
      exact h
    | refused line s' _ _ hsame =>
      rw [if_neg fun hall => Bool.false_ne_true hall.2.2.2]
      exact h.of_get? (by rw [Storage.get?, hsame.area, Storage.get?])
    | accepted j s' _ hj _ harea =>
      by_cases hown : id' = id ∧ origin' = origin ∧ k.display = text
      · obtain ⟨rfl, rfl, rfl⟩ := hown
        rw [if_pos ⟨rfl, rfl, rfl, rfl⟩]
        refine ⟨j, hj, ?_⟩
        rw [Storage.get?, harea, if_pos rfl]
        exact Fields.get?_set_self _ _ _
      · rw [if_neg fun hall => hown ⟨hall.1, hall.2.1, hall.2.2.1⟩]
        refine h.of_get? ?_
        rw [Storage.get?, harea, Storage.get?]
        split
        · rename_i horigin
          subst horigin
          refine Fields.get?_set_of_ne _ _ fun hkey => hown ?_
          -- Keys of one origin are equal only for one script and one key text.
          obtain ⟨hid, htext⟩ := keyText_injective hkey
          exact ⟨hid.symm, rfl, htext.symm⟩
        · rfl

theorem kept_after {text : String} {found : Option Datum} (calls : List Call) (hcounted : s.Counted)
    (h : Kept keyStart id origin text s found) :
    Kept keyStart id origin text (after keyStart s calls)
      ((lastStored keyStart id origin text s calls).or found) := by
  induction calls generalizing s found with
  | nil => exact h
  | cons c rest ih =>
    rw [after, lastStored, Option.or_assoc]
    exact ih (counted_perform hcounted c) (kept_perform hcounted h c)

theorem counted_after (calls : List Call) (hcounted : s.Counted) : (after keyStart s calls).Counted := by
  induction calls generalizing s with
  | nil => exact hcounted
  | cons c rest ih => exact ih (counted_perform hcounted c)

/-! ## Reading back -/

theorem get_reply {found : Option Datum} (htext : HasText id k)
    (h : Kept keyStart id origin k.display s found) (d : Datum) :
    ((Call.get id origin k d).reply keyStart s).IsImage d found := by
  have hreply : (Call.get id origin k d).reply keyStart s =
      ⟨((Scope.mk keyStart (ownerOf id) origin).get? k s).map fun v? => (v?.map Datum.ofJson).getD d, []⟩ := rfl
  rw [hreply, Scope.get?, key_of_text htext]
  cases found with
  | none =>
    have hnone : s.get? origin (keyText keyStart id k.display) = none := h
    dsimp only
    rw [hnone]
    rfl
  | some v =>
    obtain ⟨j, hj, hsome⟩ := h
    refine ⟨.ofJson j.image, Datum.jsonImage?_of_toJson hj, ?_⟩
    dsimp only
    rw [hsome]
    dsimp only
    rw [Json.read_text fun _ => Datum.writable_of_toJson v j hj]
    rfl

theorem set_accepted_iff (htext : HasText id k) (hcounted : s.Counted) :
    ((Call.set id origin k v).reply keyStart s).isAccepted = true ↔
      ∃ j, v.toJson = .ok j ∧ s.Fits origin (keyText keyStart id k.display) j.text := by
  have houtcome := @set_outcome keyStart origin id k v s hcounted
  rw [Call.reply]
  generalize (Call.set id origin k v).perform keyStart s = p at *
  cases houtcome with
  | textless hno => exact absurd htext hno
  | refused line s' _ hno => exact ⟨fun h => absurd h Bool.false_ne_true, fun h => absurd h hno⟩
  | accepted j s' _ hj hfits => exact ⟨fun _ => ⟨j, hj, hfits⟩, fun _ => rfl⟩

theorem set_refused (htext : HasText id k) (hcounted : s.Counted)
    (h : ((Call.set id origin k v).reply keyStart s).isAccepted = false) :
    (∃ line, (Call.set id origin k v).reply keyStart s = ⟨.ok .none, [.warn line]⟩) ∧
      ((Call.set id origin k v).perform keyStart s).2.Same s := by
  have houtcome := @set_outcome keyStart origin id k v s hcounted
  rw [Call.reply] at h ⊢
  generalize (Call.set id origin k v).perform keyStart s = p at *
  cases houtcome with
  | textless hno => exact absurd htext hno
  | refused line s' _ _ hsame => exact ⟨⟨line, rfl⟩, hsame⟩
  | accepted j s' => exact absurd h.symm Bool.false_ne_true

theorem perform_of_no_text (htext : ¬ HasText id k) (s : Storage) :
    (∀ d, (Call.get id origin k d).reply keyStart s = ⟨.error textless, []⟩) ∧
      ∀ v, (Call.set id origin k v).perform keyStart s = (⟨.error textless, []⟩, s) := by
  constructor
  · intro d
    rw [Call.reply, Call.perform, Scope.get?, key_of_no_text htext]
    rfl
  · intro v
    rw [Call.perform, Scope.set, key_of_no_text htext]
    rfl

/-- What scripts read back, after any calls of any scripts on any origins.

Where the id and the key have texts, a get answers the JSON image of the last value that was accepted for them, or
its default; a set is accepted if and only if its value has a JSON form that fits, and one that is refused is
a line in the log and changes nothing that is read later. Where the id or the key has no text, the fault reaches
the script. The JSON image of a plain value is the value, with lists for tuples and texts for keys. -/
theorem values_read_back (keyStart : String) (quota : Int) (calls : List Call) (id : Option Int)
    (origin : String) (k : Datum) :
    let s := after keyStart ⟨quota, []⟩ calls
    (HasText id k →
      (∀ d, ((Call.get id origin k d).reply keyStart s).IsImage d
        (lastStored keyStart id origin k.display ⟨quota, []⟩ calls)) ∧
      ∀ v, let c := Call.set id origin k v
        ((c.reply keyStart s).isAccepted = true ↔
          ∃ j, v.toJson = .ok j ∧ s.Fits origin (keyText keyStart id k.display) j.text) ∧
        ((c.reply keyStart s).isAccepted = false →
          (∃ line, c.reply keyStart s = ⟨.ok .none, [.warn line]⟩) ∧
          ∀ later, replies keyStart (c.perform keyStart s).2 later = replies keyStart s later)) ∧
    (¬ HasText id k →
      (∀ d, (Call.get id origin k d).reply keyStart s = ⟨.error textless, []⟩) ∧
      ∀ v, (Call.set id origin k v).perform keyStart s = (⟨.error textless, []⟩, s)) ∧
    ∀ v : Datum, v.IsPlain → v.jsonImage? = some v.plainImage := by
  have hempty := counted_empty quota
  have hcounted := @counted_after keyStart _ calls hempty
  refine ⟨fun htext => ⟨fun d => ?_, fun v => ⟨set_accepted_iff htext hcounted, fun hrefused => ?_⟩⟩,
    fun htext => perform_of_no_text htext _, fun v => Datum.jsonImage?_of_plain⟩
  · have hkept : Kept keyStart id origin k.display ⟨quota, []⟩ none := rfl
    have hafter := kept_after calls hempty hkept
    rw [Option.or_none] at hafter
    exact get_reply htext hafter d
  · obtain ⟨hline, hsame⟩ := set_refused htext hcounted hrefused
    exact ⟨hline, same_replies hsame⟩

def longKey : Datum := .int (Nat.pow 10 5000 : Nat)

theorem isWritable_pow {n : Nat} (h : Number.digitLimit ≤ n) :
    (Datum.int (Nat.pow 10 n : Nat)).isWritable = false := by
  have hpow : Nat.pow 10 Number.digitLimit ≤ Nat.pow 10 n := Nat.pow_le_pow_right (by decide) h
  simp only [Datum.isWritable, Number.writeInt, Int.natAbs_natCast, if_pos hpow]
  rfl

theorem longKey_has_no_text (id : Option Int) : ¬ HasText id longKey := by
  have hlimit : Number.digitLimit ≤ 5000 := by decide
  rw [HasText, longKey, isWritable_pow hlimit, Bool.and_false]
  exact Bool.false_ne_true

/-- A set under such a key, of a value that has a JSON form and for which there is room: it is not accepted, and
the fault reaches the script. -/
theorem longKey_fault_reaches_script :
    let quota : Int := (Area.set (keyText "musp_" (some 1) longKey.display) "true" {}).size
    (Datum.bool true).toJson = .ok (.bool true) ∧
    (Storage.mk quota []).Fits "https://a.test" (keyText "musp_" (some 1) longKey.display) "true" ∧
    (Call.set (some 1) "https://a.test" longKey (.bool true)).reply "musp_" ⟨quota, []⟩ =
      ⟨.error textless, []⟩ := by
  intro quota
  have hread := values_read_back "musp_" quota [] (some 1) "https://a.test" longKey
  exact ⟨rfl, Int.le_refl _, congrArg Prod.fst ((hread.2.1 (longKey_has_no_text _)).2 (.bool true))⟩

end Userscript.Storage
