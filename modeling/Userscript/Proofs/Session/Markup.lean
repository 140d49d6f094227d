import Userscript.Proofs.Machine.Entry
import Userscript.Proofs.Page.Style
import Userscript.Proofs.Session.Batch
import Userscript.Session.Markup
import Userscript.Session.Rounds

/-!
# Userscript.Proofs.Session.Markup
-/

namespace Userscript

open Machine

namespace Machine

variable {α β : Type} {m n : Memory}

theorem ok_of_toOption {ε : Type} {x : Except ε α} {a : α} (h : x.toOption = some a) : x = .ok a := by
  cases x with
  | ok b => exact congrArg Except.ok (Option.some.inj h)
  | error f => cases h

/-! ## Steps that ask nothing -/

theorem Act.look_bind (g : Memory → α) (f : α → Act β) (m : Memory) : (Act.look g >>= f) m = f (g m) m := rfl

/-- Steps that end in trouble without asking anything. -/
def Act.Fails (x : Act α) (m : Memory) : Prop := ∃ t n, x m = .done (.error t, n)

namespace Act.Fails

theorem raise (kind text : String) (m : Memory) : Fails (Act.raise kind text : Act α) m := ⟨_, _, rfl⟩

theorem bind {x : Act α} {f : α → Act β} (h : Fails x m) : Fails (x >>= f) m := by
  obtain ⟨t, n, h⟩ := h
  refine ⟨t, n, ?_⟩
  change (x m).bind _ = _
  rw [h]
  rfl

theorem after {x : Act α} {f : α → Act β} {a : α} (h : x m = .done (.ok a, n)) (hf : Fails (f a) n) :
    Fails (x >>= f) m := by
  rw [Fails, bind_done h]
  exact hf

theorem recover {x : Act α} {f : Except Trouble α → Act β} {t : Trouble} (h : x m = .done (.error t, n))
    (hf : (f (.error t)).Fails n) : Fails (Act.recover x f) m := by
  obtain ⟨u, k, hf⟩ := hf
  refine ⟨u, k, ?_⟩
  change (x m).bind _ = _
  rw [h]
  exact hf

end Act.Fails

/-! ## Attributes -/

namespace Attribute

variable {v w : Value} {name : String}

theorem missing_fails (v : Value) (name : String) (m : Memory) : (missing v name : Act α).Fails m := by
  unfold missing
  split
  · exact .raise _ _ m
  · exact .after rfl (.raise _ _ m)

theorem get_of_own (own : own? m v name = some w) : get v name m = .done (.ok w, m) := by
  rw [get, Act.look_bind, own]
  rfl

theorem get_of_loose (own : own? m v name = none) (loose : fixedAttribute? v name = none) :
    get v name m =
      if (methodNames (owner m v)).contains name then .done (.ok (.method v name), m) else missing v name m := by
  rw [get, Act.look_bind, own, ofType, loose]
  exact apply_ite (fun x : Act Value => x m) _ _ _

theorem get_fails (own : own? m v name = none) (loose : fixedAttribute? v name = none)
    (unknown : name ∉ methodNames (owner m v)) : (get v name).Fails m := by
  obtain ⟨t, n, fails⟩ := missing_fails (α := Value) v name m
  rw [Act.Fails, get_of_loose own loose, if_neg (by simpa using unknown)]
  exact ⟨t, n, fails⟩

end Attribute

/-! ## Style sheets -/

theorem calls_call (v : Value) (args : List Value) (named : Arity.Named) :
    calls.call v args named = Exec.call (callsTo 984) v args named := rfl

theorem replace_of_one_fails (c : Calls) (s : String) (v : Value) :
    (Method.ofText c s "replace" [v] []).Fails m := by
  unfold Method.ofText
  dsimp only
  exact ⟨_, _, rfl⟩

theorem replace_mem_methodNames {type : String} : "replace" ∈ methodNames type ↔ type = "str" := by
  unfold methodNames
  split <;> try decide
  split <;> simp_all

theorem replace_on_type_fails (c : Calls) (t a b : String) (m : Memory) :
    (Method.callOf c t "replace" [.str a, .str b] []).Fails m := by
  rw [Method.callOf, if_neg (by simp), Act.Fails, Act.look_bind]
  split
  · exact replace_of_one_fails c a (.str b)
  · exact Act.Fails.raise _ _ m

/-- An object that goes by the name of texts is none, and has no `replace`. -/
theorem replace_on_object_fails (c : Calls) (r : Ref) (a b : Value) (named : m.typeName (.ref r) = "str") :
    (Method.callOn c (.ref r) "replace" [a, b] []).Fails m := by
  rw [Method.callOn, Act.Fails, Act.look_bind]
  dsimp only
  rw [Act.look_bind]
  change Memory.nameOf (m.get? r) = "str" at named
  cases found : m.get? r with
  | none => exact Attribute.missing_fails _ _ m
  | some o =>
    rw [found] at named
    cases o with
    | iterator it => exact Attribute.missing_fails _ _ m
    | error kind arguments fields => exact ⟨_, _, rfl⟩
    | set frozen items => cases frozen <;> exact absurd named (by simp [Memory.nameOf, Object.typeName])
    | view part dict => cases part <;> exact absurd named (by simp [Memory.nameOf, Object.typeName, Part.typeName])
    | _ => exact absurd named (by simp [Memory.nameOf, Object.typeName])

/-- Only a text knows how to replace parts of it, unless a script taught the value that. -/
theorem guardSheet_fails (n : Nat) {css : Value} (noText : ∀ s, css ≠ .str s)
    (own : Attribute.own? m css "replace" = none) : (Method.guardSheet (callsTo (n + 1)) css).Fails m := by
  have loose : fixedAttribute? css "replace" = none := by
    cases css <;> simp [fixedAttribute?]
  suffices fails : (Attribute.get css "replace" >>= fun replace => (callsTo (n + 1)).call replace
      [.str Page.Style.guardedMark.1, .str Page.Style.guardedMark.2] []).Fails m by
    cases css with
    | str s => exact absurd rfl (noText s)
    | _ => exact fails
  by_cases named : Attribute.owner m css = "str"
  · have known := List.contains_iff_mem.mpr (replace_mem_methodNames.mpr named)
    refine .after ((Attribute.get_of_loose own loose).trans (if_pos known)) ?_
    change (Method.call (callsTo n) css "replace" _ []).Fails m
    cases css with
    | str s => exact absurd rfl (noText s)
    | type t => exact replace_on_type_fails _ t _ _ m
    | ref r => exact replace_on_object_fails _ r _ _ named
    | builtin b => cases b <;> exact absurd named (by simp [Attribute.owner, Memory.typeName])
    | _ => exact absurd named (by simp [Attribute.owner, Memory.typeName])
  · exact .bind (Attribute.get_fails own loose fun known => named (replace_mem_methodNames.mp known))

/-! ## Nodes -/

/-- The attributes that the node of a style has in memory. -/
def Memory.nodeOf? (m : Memory) (x : Page.Style) : Option (Fields Value) :=
  match (m.styles.lookup x.number).bind m.get? with
  | some (.style fields) => some fields
  | _ => none

/-- A node that leaves its element to the page: it has no `render` of its own, and its sheet no `replace`. -/
def Memory.LeavesElement (m : Memory) (x : Page.Style) : Prop :=
  ∃ fields, m.nodeOf? x = some fields ∧ Fields.get? "render" fields = none ∧
    ∀ css, Fields.get? "css" fields = some css → Attribute.own? m css "replace" = none

/-- The element of a node with these attributes, whose sheet has to be a text, and its number one that can be
written. -/
def Memory.elementWith? (m : Memory) (fields : Fields Value) : Option String :=
  match Fields.get? "css" fields with
  | some (.str css) => (Fields.get? "node_id" fields).bind fun number =>
    (m.written display number).toOption.map fun text => Page.Style.element text (Page.Style.guarded css)
  | _ => none

/-- What a step comes to that asks nothing and leaves memory alone: a value, or trouble. -/
def Act.Comes (x : Act α) (m : Memory) (result : Option α) : Prop :=
  match result with
  | some a => x m = .done (.ok a, m)
  | none => x.Fails m

theorem Act.Comes.congr {x y : Act α} {result : Option α} (same : x m = y m) : x.Comes m result ↔ y.Comes m result := by
  unfold Act.Comes Act.Fails
  rw [same]

theorem Act.Comes.bind {x : Act α} {f : α → Act β} {a? : Option α} {b? : α → Option β} (hx : x.Comes m a?)
    (hf : ∀ a, a? = some a → (f a).Comes m (b? a)) : (x >>= f).Comes m (a?.bind b?) := by
  cases a? with
  | none => exact Act.Fails.bind hx
  | some a =>
    have next := hf a rfl
    change (x >>= f).Comes m (b? a)
    unfold Act.Comes at next ⊢
    rw [Act.Fails, bind_done hx]
    exact next

theorem Act.Comes.fails {x : Act α} (h : x.Fails m) : x.Comes m none := h

theorem Act.Comes.get {v w : Value} {name : String} (own : Attribute.own? m v name = some w) :
    (Attribute.get v name).Comes m (some w) := Attribute.get_of_own own

section Node

variable {r : Ref} {fields : Fields Value} {name : String}

theorem own_of_style (found : m.get? r = some (.style fields)) (other : name ≠ "owner_script_id") :
    Attribute.own? m (.ref r) name = Fields.get? name fields := by
  rw [Attribute.own?, found]
  simp [Attribute.ofObject?, other]

/-- A node has the attributes that it keeps, and its `render`. -/
theorem get_comes_of_style (found : m.get? r = some (.style fields)) (other : name ≠ "owner_script_id")
    (other' : name ≠ "render") : (Attribute.get (.ref r) name).Comes m (Fields.get? name fields) := by
  have own := own_of_style found other
  cases kept : Fields.get? name fields with
  | some w => exact Attribute.get_of_own (own.trans kept)
  | none =>
    refine Attribute.get_fails (own.trans kept) rfl ?_
    have named : Attribute.owner m (.ref r) = "StyleNode" := by
      change Memory.nameOf (m.get? r) = _
      rw [found]
      rfl
    rw [named]
    simpa [methodNames] using other'

theorem written_comes (v : Value) : (Act.written Memory.display v).Comes m (m.written Memory.display v).toOption := by
  have lifted : Act.written Memory.display v m = Act.lift (m.written Memory.display v) m := rfl
  rw [Act.Comes.congr lifted]
  cases m.written Memory.display v with
  | ok text => exact rfl
  | error e => exact Act.Fails.raise _ _ m

/-- The sheet and the number of a node make its element, if it is one. -/
theorem renderStyle_comes (n : Nat) (found : m.get? r = some (.style fields))
    (plain : ∀ css, Fields.get? "css" fields = some css → Attribute.own? m css "replace" = none) :
    (Method.renderStyle (callsTo (n + 1)) (.ref r)).Comes m ((m.elementWith? fields).map .str) := by
  have sheet : (Attribute.get (.ref r) "css").Comes m _ := get_comes_of_style found (by decide) (by decide)
  have number : (Attribute.get (.ref r) "node_id").Comes m _ :=
    get_comes_of_style found (by decide) (by decide)
  unfold Memory.elementWith?
  cases kept : Fields.get? "css" fields with
  | none =>
    rw [kept] at sheet
    exact Act.Fails.bind sheet
  | some css =>
    rw [kept] at sheet
    rw [Method.renderStyle, Act.Comes.congr (bind_done sheet)]
    -- A text is guarded as the page does it; any other sheet has no method to do it by.
    by_cases text : ∃ s, css = .str s
    · obtain ⟨s, rfl⟩ := text
      have whole (number : Value) : (do
          let text ← Act.written Memory.display number
          let css ← Act.written Memory.display (.str (Page.Style.guarded s))
          return .str (Page.Style.element text css) : Act Value).Comes m
            (((m.written Memory.display number).toOption.map fun text =>
              Page.Style.element text (Page.Style.guarded s)).map .str) := by
        rw [Option.map_map, Option.map_eq_bind]
        exact (written_comes number).bind fun text _ => rfl
      rw [Option.map_bind]
      exact number.bind fun number _ => whole number
    · have noText : ∀ s, css ≠ .str s := fun s same => text ⟨s, same⟩
      have fails := guardSheet_fails n noText (plain css kept)
      cases css with
      | str s => exact absurd rfl (noText s)
      | _ => exact Act.Fails.bind fails

/-- A node whose `render` is that of all nodes gives its element when it is called. -/
theorem call_render_comes (found : m.get? r = some (.style fields)) (own : Fields.get? "render" fields = none)
    (plain : ∀ css, Fields.get? "css" fields = some css → Attribute.own? m css "replace" = none) :
    (do
      let render ← Attribute.get (.ref r) "render"
      calls.call render [] [] : Act Value).Comes m ((m.elementWith? fields).map .str) := by
  have loose : Attribute.own? m (.ref r) "render" = none := (own_of_style found (by decide)).trans own
  have known : (methodNames (Attribute.owner m (.ref r))).contains "render" = true := by
    change (methodNames (Memory.nameOf (m.get? r))).contains "render" = true
    rw [found]
    rfl
  rw [Act.Comes.congr (bind_done ((Attribute.get_of_loose loose rfl).trans (if_pos known)))]
  have called : calls.call (.method (.ref r) "render") [] [] m = Method.renderStyle (callsTo 984) (.ref r) m := by
    change Method.callOn (callsTo 984) (.ref r) "render" [] [] m = _
    rw [Method.callOn, Act.look_bind]
    dsimp only
    rw [Act.look_bind, found]
    rfl
  rw [Act.Comes.congr called]
  exact renderStyle_comes 983 found plain

end Node

/-- The element of a style whose node leaves it to the page. -/
def Memory.elementOf? (m : Memory) (x : Page.Style) : Option String := (m.nodeOf? x).bind m.elementWith?

/-- The sheet of a node is this text, and its number is written as this one. -/
def Memory.Holds (m : Memory) (x : Page.Style) (css number : String) : Prop :=
  ∃ fields v, m.nodeOf? x = some fields ∧ Fields.get? "css" fields = some (.str css) ∧
    Fields.get? "node_id" fields = some v ∧ m.written display v = .ok number

theorem Memory.elementOf?_eq_some {x : Page.Style} {e : String} :
    m.elementOf? x = some e ↔
      ∃ css number, m.Holds x css number ∧ Page.Style.element number (Page.Style.guarded css) = e := by
  unfold Memory.Holds Memory.elementOf? Memory.elementWith?
  constructor
  · intro given
    obtain ⟨fields, node, given⟩ := Option.bind_eq_some_iff.mp given
    split at given
    · next css sheet =>
      obtain ⟨v, counted, given⟩ := Option.bind_eq_some_iff.mp given
      obtain ⟨number, written, made⟩ := Option.map_eq_some_iff.mp given
      exact ⟨css, number, ⟨fields, v, node, sheet, counted, ok_of_toOption written⟩, made⟩
    · cases given
  · rintro ⟨css, number, ⟨fields, v, node, sheet, counted, written⟩, made⟩
    rw [node, Option.bind_some, sheet]
    dsimp only
    rw [counted, Option.bind_some, written]
    exact congrArg some made

theorem Memory.exists_element_iff {x : Page.Style} :
    (∃ e, m.elementOf? x = some e) ↔ ∃ css number, m.Holds x css number := by
  simp only [elementOf?_eq_some]
  exact ⟨fun ⟨_, css, number, holds, _⟩ => ⟨css, number, holds⟩, fun ⟨css, number, holds⟩ => ⟨_, css, number, holds, rfl⟩⟩

/-- An element is closed once if and only if the number does not close it before. -/
theorem Memory.exists_closing_iff {x : Page.Style} :
    (∃ e, m.elementOf? x = some e ∧ Page.Style.ClosesOnce e) ↔
      ∃ css number, m.Holds x css number ∧ ¬ Page.Style.guardedMark.1.toList <:+: number.toList := by
  simp only [elementOf?_eq_some]
  constructor
  · rintro ⟨_, ⟨css, number, holds, rfl⟩, closes⟩
    exact ⟨css, number, holds, (Page.Style.closesOnce_element_iff.mp closes).1⟩
  · rintro ⟨css, number, holds, absent⟩
    exact ⟨_, ⟨css, number, holds, rfl⟩,
      Page.Style.closesOnce_element_iff.mpr ⟨absent, Page.Style.absent_guarded css⟩⟩

theorem element_comes {x : Page.Style} (leaves : m.LeavesElement x) :
    (Session.element x).Comes m ((m.elementOf? x).map .str) := by
  obtain ⟨fields, node, own, plain⟩ := leaves
  obtain ⟨r, placed, found⟩ : ∃ r, m.styles.lookup x.number = some r ∧ m.get? r = some (.style fields) := by
    unfold Memory.nodeOf? at node
    split at node
    · next found =>
      cases node
      exact Option.bind_eq_some_iff.mp found
    · cases node
  have same : Session.element x m = (do
      let render ← Attribute.get (.ref r) "render"
      calls.call render [] [] : Act Value) m := by
    rw [Session.element, Act.look_bind, placed]
  rw [Memory.elementOf?, node, Act.Comes.congr same]
  exact call_render_comes found own plain

theorem asked_comes {x : Page.Style} (leaves : m.LeavesElement x) :
    (Session.asked x).Comes m ((m.elementOf? x).map .str) := by
  have comes := element_comes leaves
  cases given : m.elementOf? x with
  | some e =>
    rw [given] at comes
    change (Session.element x m).bind _ = _
    rw [(comes : Session.element x m = _)]
    rfl
  | none =>
    rw [given] at comes
    obtain ⟨t, n, fails⟩ := comes
    refine Act.Fails.recover fails ?_
    cases t with
    | endless => exact ⟨_, _, rfl⟩
    | raised e =>
      refine .after rfl ?_
      split
      · exact .raise _ _ n
      · exact ⟨_, _, rfl⟩

end Machine

namespace Session

variable {σ α β : Type} {set : Setting σ} {a : Author} {s : Session σ}

/-- What work on a page comes to: a result that leaves the page as it was, or trouble. -/
def Comes (work : Except Trouble α × Session σ) (s : Session σ) (result : Option α) : Prop :=
  match result with
  | some a => work = (.ok a, s)
  | none => ∃ t, work.1 = .error t

theorem comes_act (set : Setting σ) (a : Author) {x : Act α} {result : Option α} (h : x.Comes s.memory result) :
    Comes (s.act set a x) s result := by
  cases result with
  | some v =>
    change s.act set a x = _
    rw [act, (h : x s.memory = _)]
    rfl
  | none =>
    obtain ⟨t, n, h⟩ := h
    change ∃ t, (s.act set a x).1 = _
    rw [act, h]
    exact ⟨t, rfl⟩

theorem Comes.andThen {work : Except Trouble α × Session σ} {a? : Option α} {b? : α → Option β}
    {next : α → Session σ → Except Trouble β × Session σ} (h : Comes work s a?)
    (hn : ∀ a, a? = some a → Comes (next a s) s (b? a)) : Comes (Session.andThen work next) s (a?.bind b?) := by
  cases a? with
  | some a =>
    cases (h : work = (.ok a, s))
    exact hn a rfl
  | none =>
    obtain ⟨r, t⟩ := work
    obtain ⟨u, rfl⟩ := (h : ∃ u, r = .error u)
    exact ⟨u, rfl⟩

/-- Styles that leave their elements to the page, asked one after another. -/
theorem comes_elementsFrom (set : Setting σ) {fuel i : Nat} (inside : i ≤ s.document.styles.length)
    (enough : s.document.styles.length < i + fuel)
    (leaves : ∀ x ∈ s.document.styles.drop i, s.memory.LeavesElement x) :
    Comes (s.elementsFrom set fuel i) s
      (((s.document.styles.drop i).mapM s.memory.elementOf?).map (·.map .str)) := by
  induction fuel generalizing i with
  | zero => omega
  | succ fuel ih =>
    rw [elementsFrom]
    rcases Nat.lt_or_eq_of_le inside with next | rfl
    · rw [List.drop_eq_getElem_cons next] at leaves ⊢
      obtain ⟨first, leaves⟩ := List.forall_mem_cons.mp leaves
      have rest := ih next (by omega) leaves
      have answer := comes_act set (s.styler set s.document.styles[i]) (asked_comes first)
      have both : ((s.document.styles[i] :: s.document.styles.drop (i + 1)).mapM s.memory.elementOf?).map (·.map Value.str) =
          ((s.memory.elementOf? s.document.styles[i]).map Value.str).bind fun v =>
            (((s.document.styles.drop (i + 1)).mapM s.memory.elementOf?).map (·.map Value.str)).bind fun vs =>
              some (v :: vs) := by
        rw [List.mapM_cons]
        cases s.memory.elementOf? s.document.styles[i] with
        | none => rfl
        | some e => cases (s.document.styles.drop (i + 1)).mapM s.memory.elementOf? <;> rfl
      rw [both, List.getElem?_eq_getElem next]
      exact answer.andThen fun v _ => rest.andThen fun vs _ => rfl
    · rw [List.drop_length, List.getElem?_eq_none (Nat.le_refl _)]
      rfl

theorem joinable_texts (i : Nat) (es : List String) (m : Memory) :
    Method.joinable i (es.map .str) m = .done (.ok (es.map String.toList), m) := by
  induction es generalizing i with
  | nil => rfl
  | cons e rest ih =>
    rw [List.map_cons, Method.joinable, bind_done (ih (i + 1))]
    rfl

/-- The elements of styles that leave them to the page. -/
theorem comes_elementTexts (set : Setting σ) (leaves : ∀ x ∈ s.document.styles, s.memory.LeavesElement x) :
    Comes (s.elementTexts set) s (s.document.styles.mapM s.memory.elementOf?) := by
  have enough : s.document.styles.length < 0 + (turns + s.document.styles.length) := by
    have : 0 < turns := by decide
    omega
  have walked : Comes (s.elements set) s _ := comes_elementsFrom set (Nat.zero_le _) enough leaves
  rw [elementTexts]
  rw [List.drop_zero] at walked
  cases given : s.document.styles.mapM s.memory.elementOf? with
  | none =>
    rw [given] at walked
    exact (walked.andThen fun _ => nofun : Comes _ s (none.bind fun _ => none))
  | some es =>
    rw [given] at walked
    have read : Comes (s.act set unowned (Method.joinable 0 (es.map .str))) s (some (es.map String.toList)) :=
      comes_act set unowned (joinable_texts 0 es _)
    have texts : (es.map String.toList).map String.ofList = es := by simp
    refine (walked.andThen fun vs same => ?_ : Comes _ s ((some (es.map Value.str)).bind fun _ => some es))
    cases same
    refine (read.andThen fun pieces same => ?_ : Comes _ s ((some (es.map String.toList)).bind fun _ => some es))
    cases same
    exact congrArg (fun l => (Except.ok l, s)) texts

theorem exists_mapM_iff {f : α → Option β} {P : β → Prop} {l : List α} :
    (∃ bs, l.mapM f = some bs ∧ ∀ b ∈ bs, P b) ↔ ∀ a ∈ l, ∃ b, f a = some b ∧ P b := by
  induction l with
  | nil => exact ⟨fun _ => nofun, fun _ => ⟨[], rfl, nofun⟩⟩
  | cons a rest ih =>
    rw [List.forall_mem_cons, ← ih, List.mapM_cons]
    constructor
    · rintro ⟨bs, given, each⟩
      obtain ⟨b, first, given⟩ := Option.bind_eq_some_iff.mp given
      obtain ⟨more, others, given⟩ := Option.bind_eq_some_iff.mp given
      cases given
      rw [List.forall_mem_cons] at each
      exact ⟨⟨b, first, each.1⟩, more, others, each.2⟩
    · rintro ⟨⟨b, first, hb⟩, bs, others, each⟩
      refine ⟨b :: bs, ?_, List.forall_mem_cons.mpr ⟨hb, each⟩⟩
      rw [first, others]
      rfl

/-! ## What asking for elements keeps -/

theorem andThen_keeps {P : Session σ → Prop} {work : Except Trouble α × Session σ}
    {next : α → Session σ → Except Trouble β × Session σ} (h : P work.2) (hn : ∀ a s, P s → P (next a s).2) :
    P (andThen work next).2 := by
  unfold andThen
  split
  · exact hn _ _ h
  · exact h

theorem elementsFrom_keeps {P : Session σ → Prop}
    (act : ∀ {β : Type} (a : Author) (x : Act β) (s : Session σ), P s → P (s.act set a x).2) (fuel i : Nat) (h : P s) :
    P (s.elementsFrom set fuel i).2 := by
  induction fuel generalizing i s with
  | zero => exact h
  | succ fuel ih =>
    rw [elementsFrom]
    split
    · exact h
    · exact andThen_keeps (act _ _ s h) fun _ t ht => andThen_keeps (ih _ ht) fun _ _ hu => hu

/-- What steps of scripts keep, it keeps to ask all styles for their elements. -/
theorem elementTexts_keeps {P : Session σ → Prop}
    (act : ∀ {β : Type} (a : Author) (x : Act β) (s : Session σ), P s → P (s.act set a x).2) (h : P s) :
    P (s.elementTexts set).2 :=
  andThen_keeps (elementsFrom_keeps act _ _ h) fun _ t ht => andThen_keeps (act _ _ t ht) fun _ _ hu => hu

theorem indicator_act (set : Setting σ) (a : Author) (x : Act α) (s : Session σ) :
    (s.act set a x).2.document.indicator = s.document.indicator := by
  obtain ⟨sheets, grown⟩ := (confined_act set a x s).document
  rw [grown, Page.Document.addStyles_eq]

theorem indicator_elementTexts (set : Setting σ) (s : Session σ) :
    (s.elementTexts set).2.document.indicator = s.document.indicator :=
  elementTexts_keeps (P := fun t => t.document.indicator = s.document.indicator)
    (fun a x t same => (indicator_act set a x t).trans same) rfl

theorem render_eq (set : Setting σ) (html : String) (s : Session σ) :
    (s.render set html).1 =
      (s.elementTexts set).1.map fun elements => Page.Document.renderWith elements s.document.indicator html := by
  have badge := indicator_elementTexts set s
  rw [render]
  generalize s.elementTexts set = work at badge ⊢
  obtain ⟨r, t⟩ := work
  cases r with
  | error u => rfl
  | ok elements => exact congrArg (fun i => Except.ok (Page.Document.renderWith elements i html)) badge

/-- What is written of a page after a batch of scripts, whatever they did.

Markup is its source with elements and badge put in. The elements do not depend on the source, so there is markup for
every source or for none. If the nodes of the styles leave their elements to the page, there is markup if and only
if each has a text for a sheet and a number that can be written; and each element closes once, at its end, if and
only if the number does not hold the beginning of a closing tag, whatever the sheet is. -/
theorem markup_intact_iff (set : Setting σ) (report : Reporter σ) (scripts : List Script) (s : Session σ) :
    let t := (s.runBatch set report scripts).2
    let answer := (t.elementTexts set).1
    (∀ html, (t.render set html).1 =
      answer.map fun elements => Page.Document.renderWith elements t.document.indicator html) ∧
    ((∀ x ∈ t.document.styles, t.memory.LeavesElement x) →
      ((∃ elements, answer = .ok elements) ↔ ∀ x ∈ t.document.styles, ∃ css number, t.memory.Holds x css number) ∧
      ((∃ elements, answer = .ok elements ∧ ∀ e ∈ elements, Page.Style.ClosesOnce e) ↔
        ∀ x ∈ t.document.styles, ∃ css number, t.memory.Holds x css number ∧
          ¬ Page.Style.guardedMark.1.toList <:+: number.toList)) := by
  intro t answer
  refine ⟨fun html => render_eq set html t, fun leaves => ?_⟩
  have comes := comes_elementTexts set leaves
  -- What the walk over the styles comes to is what each style gives by itself.
  have each : ∀ es, answer = .ok es ↔ t.document.styles.mapM t.memory.elementOf? = some es := by
    intro es
    cases given : t.document.styles.mapM t.memory.elementOf? with
    | none =>
      rw [given] at comes
      obtain ⟨u, fails⟩ := comes
      rw [show answer = .error u from fails]
      exact ⟨nofun, nofun⟩
    | some all =>
      rw [given] at comes
      rw [show answer = .ok all from congrArg Prod.fst comes, Except.ok.injEq, Option.some.injEq]
  have all : (∃ es, t.document.styles.mapM t.memory.elementOf? = some es) ↔
      ∀ x ∈ t.document.styles, ∃ e, t.memory.elementOf? x = some e := by
    simpa using exists_mapM_iff (P := fun _ : String => True)
  simp only [each, all, exists_mapM_iff, Memory.exists_element_iff, Memory.exists_closing_iff, and_self]

/-! ## A script that loses the markup of its page -/

theorem reported_later_leaves (o : Outcome) (s : Session σ) :
    (s.reported later o).document = s.document ∧ (s.reported later o).memory = s.memory := by
  unfold reported later
  dsimp only
  split <;> exact ⟨rfl, rfl⟩

/-- What a batch of one script leaves of styles and memory. -/
theorem left_of_program {script : Script} {origin : String} {p : Program}
    (known : s.document.origin = .ok origin) (source : Program.ofSource set.longest script.code = .ok p) :
    (s.runBatch set later [script]).2.document.styles =
        (s.act set (authorOf set origin script) (p.start capabilities)).2.document.styles ∧
      (s.runBatch set later [script]).2.memory =
        (s.act set (authorOf set origin script) (p.start capabilities)).2.memory := by
  have code : (s.runCode set origin script).2 = (s.act set (authorOf set origin script) (p.start capabilities)).2 := by
    rw [runCode, source]
    dsimp only
    split <;> next acted => rw [acted]
  rw [← code]
  cases ran : s.runScript set later script with
  | mk answer t =>
    cases answer with
    | error f =>
      rw [runBatch_cons_of_error ran]
      rcases runScript_error ran with ⟨unknown, -⟩ | ⟨origin', known', coded⟩
      · cases known.symm.trans unknown
      · obtain rfl := Except.ok.inj (known.symm.trans known')
        rw [coded]
        exact ⟨rfl, rfl⟩
    | ok o =>
      rw [runBatch_cons_of_ok ran]
      obtain ⟨origin', error, u, known', coded, rfl, rfl⟩ := runScript_ok ran
      obtain rfl := Except.ok.inj (known.symm.trans known')
      obtain ⟨document, memory⟩ := reported_later_leaves ⟨script.id, script.name, error⟩ (u.settled script error)
      rw [coded, runBatch, document, memory]
      cases error <;> exact ⟨rfl, rfl⟩

/-- A house without a catalog. -/
def bareSetting : Setting Unit where
  bridge := { select := fun _ _ s => (.ok [], [], s), laps := fun _ => 0, report := fun _ _ s => (.ok (), s) }

/-- A page on which nothing has happened. -/
def barePage : Session Unit where
  document := { url := "https://a.test/" }
  storage := { quota := 1024 }
  relay := .new [] "" true
  engine := ()

/-- A script that gives the node of its style a number for a sheet. -/
def unsheet : Script := { id := some 1, name := "s", code := .str "GM_addStyle(\"p {}\").css = 5" }

def unsheeting : Program where
  signature := { name := Program.entryName, path := Program.entryName, parameters := Program.parameters }
  code := [.push (.int 5), .load .frame "GM_addStyle", .push (.text "p {}"), .call 1 [], .setAttr "css"]

/-- Whether the tree of that code was read. -/
def isUnsheeting : Except Fault Syntax.Tree → Bool
  | .ok (.node .module none [
      .list [
        .node .assign (some 1) [
          .list [.node .attr (some 1) [
            .node .call (some 1) [
              .node .name (some 1) [.word "GM_addStyle", .blank],
              .list [.node .constant (some 1) [.literal (.text "p {}"), .blank]],
              .list []],
            .word "css", .blank]],
          .node .constant (some 1) [.literal (.int 5), .blank],
          .blank]],
      .list []]) => true
  | _ => false

theorem unsheeting_of_source : Program.ofSource bareSetting.longest unsheet.code = .ok unsheeting := by
  have short : ("GM_addStyle(\"p {}\").css = 5".length : Int) ≤ bareSetting.longest := by decide +kernel
  have read : isUnsheeting (Syntax.validated "GM_addStyle(\"p {}\").css = 5") = true := by decide +kernel
  unfold isUnsheeting at read
  split at read
  · next tree => exact Program.ofSource_of_tree short tree (by cbv)
  · cases read

/-- Whether a node renders as all do, and has the number of that script for a sheet. -/
def hasNumber : Option (Option Value × Option Value) → Bool
  | some (none, some (.int 5)) => true
  | _ => false

/-- The script runs to its end, and leaves a node that has a number for a sheet: there is markup for no source. -/
theorem markup_lost_by_number :
    let t := (barePage.runBatch bareSetting later [unsheet]).2
    (∀ x ∈ t.document.styles, t.memory.LeavesElement x) ∧ ∀ html, ∃ u, (t.render bareSetting html).1 = .error u := by
  have known : barePage.document.origin = .ok "https://a.test" := ok_of_toOption (by decide +kernel)
  have left := left_of_program known unsheeting_of_source
  have one : (barePage.runBatch bareSetting later [unsheet]).2.document.styles = [⟨1, some 1, "p {}"⟩] := by
    rw [left.1]
    decide +kernel
  have kept : hasNumber (((barePage.runBatch bareSetting later [unsheet]).2.memory.nodeOf? ⟨1, some 1, "p {}"⟩).map
      fun fields => (Fields.get? "render" fields, Fields.get? "css" fields)) = true := by
    rw [left.2]
    decide +kernel
  have intact := markup_intact_iff bareSetting later [unsheet] barePage
  dsimp only at intact ⊢
  generalize (barePage.runBatch bareSetting later [unsheet]).2 = t at one kept intact ⊢
  obtain ⟨markup, exact⟩ := intact
  unfold hasNumber at kept
  split at kept
  · next found =>
    obtain ⟨fields, node, pair⟩ := Option.map_eq_some_iff.mp found
    obtain ⟨plain, sheet⟩ := Prod.mk.inj pair
    have leaves : ∀ x ∈ t.document.styles, t.memory.LeavesElement x := by
      rw [one]
      refine List.forall_mem_singleton.mpr ⟨fields, node, plain, fun css same => ?_⟩
      cases sheet.symm.trans same
      rfl
    refine ⟨leaves, fun html => ?_⟩
    cases answer : (t.elementTexts bareSetting).1 with
    | error u => exact ⟨u, (markup html).trans (congrArg (Except.map _) answer)⟩
    | ok elements =>
      have holds := (exact leaves).1.mp ⟨elements, answer⟩
      rw [one] at holds
      obtain ⟨css, number, other, v, node', sheet', -⟩ := List.forall_mem_singleton.mp holds
      cases node.symm.trans node'
      cases sheet.symm.trans sheet'
  · cases kept

end Session
end Userscript
