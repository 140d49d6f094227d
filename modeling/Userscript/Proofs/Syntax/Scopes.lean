import Userscript.Proofs.Syntax.Check

/-!
# Userscript.Proofs.Syntax.Scopes

What belongs to the scope in which it stands.

The body of a function is a scope of its own. Its decorators, the defaults of its parameters and its notes are
not: they belong to the scope that the definition stands in. `scopeNodes` are the nodes of one scope, and
`Tree.outerNodes` those that a definition adds to the scope around it.

The check counts functions from the definition on, not from its body on. So a tree that passes can hold results
given piece by piece that belong to no function, and `exists_result_iff` says where: in what its definitions
add to the scope of the script.
-/

namespace Userscript.Syntax

/-- The field of a function that is a scope of its own. -/
def Kind.bodyField? : Kind → Option Nat
  | .functionDef | .asyncFunctionDef => some 2
  | .lambda => some 1
  | _ => none

mutual

/-- The nodes of the scope of a tree, each before those in its fields. -/
def scopeNodes : Tree → List Tree
  | .node kind line fields => .node kind line fields :: scopeNodesBut kind.bodyField? 0 fields
  | .list items => scopeNodesBut none 0 items
  | _ => []

/-- The nodes of the same scope in the fields from the field `i` on, of which one may be a body. -/
def scopeNodesBut (body? : Option Nat) (i : Nat) : List Tree → List Tree
  | [] => []
  | t :: rest => (if body? = some i then [] else scopeNodes t) ++ scopeNodesBut body? (i + 1) rest

end

theorem mem_scopeNodesBut_cons {y t : Tree} {rest : List Tree} {body? : Option Nat} {i : Nat} :
    y ∈ scopeNodesBut body? i (t :: rest) ↔
      body? ≠ some i ∧ y ∈ scopeNodes t ∨ y ∈ scopeNodesBut body? (i + 1) rest := by
  rw [scopeNodesBut, List.mem_append]
  split <;> simp [*]

theorem mem_scopeNodesBut_none {y : Tree} {i : Nat} {ts : List Tree} :
    y ∈ scopeNodesBut none i ts ↔ ∃ t ∈ ts, y ∈ scopeNodes t := by
  induction ts generalizing i with
  | nil => simp [scopeNodesBut]
  | cons t rest ih => simp [mem_scopeNodesBut_cons, ih]

theorem mem_scopeNodes_list {y : Tree} {items : List Tree} :
    y ∈ scopeNodes (.list items) ↔ ∃ t ∈ items, y ∈ scopeNodes t := by
  rw [scopeNodes, mem_scopeNodesBut_none]

theorem mem_scopeNodes_node {y : Tree} {kind : Kind} {line : Option Int} {fields : List Tree}
    (h : kind.bodyField? = none) :
    y ∈ scopeNodes (.node kind line fields) ↔
      y = .node kind line fields ∨ ∃ t ∈ fields, y ∈ scopeNodes t := by
  rw [scopeNodes, List.mem_cons, h, mem_scopeNodesBut_none]

namespace Tree

/-- The nodes of a definition that belong to the scope around it: those in decorators, defaults and notes. -/
def outerNodes : Tree → List Tree
  | .node kind _ fields => scopeNodesBut kind.bodyField? 0 fields
  | _ => []

/-- Whether a node gives a result piece by piece. -/
def IsResult (t : Tree) : Prop := t.kind? = some .yield ∨ t.kind? = some .yieldFrom

def IsFunction (t : Tree) : Prop :=
  t.kind? ∈ [some .functionDef, some .asyncFunctionDef, some .lambda]

end Tree

theorem isFunction_of_opensFunction {kind : Kind} {line : Option Int} {fields : List Tree}
    (h : kind.opensFunction = true) : (Tree.node kind line fields).IsFunction := by
  cases kind <;> simp_all [Tree.IsFunction, Tree.kind?, Kind.opensFunction]

mutual

/-- What a definition in a scope adds to the scope around it is in that scope. -/
theorem mem_scopeNodes_of_outer {f y : Tree} (hy : y ∈ f.outerNodes) :
    ∀ {t : Tree}, f ∈ scopeNodes t → y ∈ scopeNodes t
  | .node kind line fields, hf => by
    rw [scopeNodes, List.mem_cons] at hf ⊢
    rcases hf with rfl | hf
    · exact .inr hy
    · exact .inr (mem_scopeNodesBut_of_outer hy hf)
  | .list items, hf => by
    rw [scopeNodes] at hf ⊢
    exact mem_scopeNodesBut_of_outer hy hf
  | .blank, hf | .word _, hf | .literal _, hf => by cases hf

theorem mem_scopeNodesBut_of_outer {f y : Tree} (hy : y ∈ f.outerNodes) {body? : Option Nat} :
    ∀ {i : Nat} {ts : List Tree}, f ∈ scopeNodesBut body? i ts → y ∈ scopeNodesBut body? i ts
  | _, [], hf => by cases hf
  | i, t :: rest, hf => by
    rw [mem_scopeNodesBut_cons] at hf ⊢
    exact hf.imp (And.imp_right (mem_scopeNodes_of_outer hy)) (mem_scopeNodesBut_of_outer hy)

end

mutual

/-- In a tree that passes, what gives a result in the scope of the tree stands in a definition. -/
theorem exists_outer_of_result {y : Tree} (hresult : y.IsResult) :
    ∀ {t : Tree}, checkFrom 0 t = .ok () → y ∈ scopeNodes t →
      ∃ f ∈ scopeNodes t, f.IsFunction ∧ y ∈ f.outerNodes
  | .node kind line fields, hcheck, hy => by
    rw [checkFrom] at hcheck
    rw [scopeNodes, List.mem_cons] at hy
    rcases hy with rfl | hy
    · rcases hresult with h | h
      all_goals
        cases h
        cases hcheck
    · cases hopens : kind.opensFunction with
      | true => exact ⟨_, List.mem_cons_self, isFunction_of_opensFunction hopens, hy⟩
      | false =>
        rw [hopens] at hcheck
        split at hcheck
        · cases hcheck
        · obtain ⟨f, hf, hfunction⟩ := exists_outer_of_result_all hresult hcheck hy
          exact ⟨f, List.mem_cons_of_mem _ hf, hfunction⟩
  | .list items, hcheck, hy => by
    rw [checkFrom] at hcheck
    rw [scopeNodes] at hy ⊢
    exact exists_outer_of_result_all hresult hcheck hy
  | .blank, _, hy | .word _, _, hy | .literal _, _, hy => by cases hy

theorem exists_outer_of_result_all {y : Tree} (hresult : y.IsResult) {body? : Option Nat} :
    ∀ {i : Nat} {ts : List Tree}, checkAll 0 ts = .ok () → y ∈ scopeNodesBut body? i ts →
      ∃ f ∈ scopeNodesBut body? i ts, f.IsFunction ∧ y ∈ f.outerNodes
  | _, [], _, hy => by cases hy
  | i, t :: rest, hcheck, hy => by
    rw [checkAll] at hcheck
    simp only [mem_scopeNodesBut_cons] at hy ⊢
    split at hcheck
    · cases hcheck
    rename_i hfirst
    rcases hy with ⟨hown, hy⟩ | hy
    · obtain ⟨f, hf, hfunction⟩ := exists_outer_of_result hresult hfirst hy
      exact ⟨f, .inl ⟨hown, hf⟩, hfunction⟩
    · obtain ⟨f, hf, hfunction⟩ := exists_outer_of_result_all hresult hcheck hy
      exact ⟨f, .inr hf, hfunction⟩

end

/-- Some definition in the scope of a tree has a result in its decorators, defaults or notes. -/
def HasOuterResult (t : Tree) : Prop :=
  ∃ f ∈ scopeNodes t, f.IsFunction ∧ ∃ y ∈ f.outerNodes, y.IsResult

theorem exists_result_iff {t : Tree} (hcheck : checkFrom 0 t = .ok ()) :
    (∃ y ∈ scopeNodes t, y.IsResult) ↔ HasOuterResult t := by
  constructor
  · rintro ⟨y, hy, hresult⟩
    obtain ⟨f, hf, hfunction, hout⟩ := exists_outer_of_result hresult hcheck hy
    exact ⟨f, hf, hfunction, y, hout, hresult⟩
  · rintro ⟨f, hf, -, y, hy, hresult⟩
    exact ⟨y, mem_scopeNodes_of_outer hy hf, hresult⟩

theorem checkFrom_of_checkAll {depth : Nat} {t : Tree} {ts : List Tree} (h : checkAll depth ts = .ok ())
    (ht : t ∈ ts) : checkFrom depth t = .ok () := by
  induction ts with
  | nil => cases ht
  | cons u rest ih =>
    rw [checkAll] at h
    split at h
    · cases h
    · rename_i hu
      rcases List.mem_cons.1 ht with rfl | ht
      · exact hu
      · exact ih h ht

/-- The statements of a script are checked outside functions. -/
theorem checkFrom_body {t : Tree} (hmodule : t.kind? = some .module) (hcheck : check t = .ok ()) :
    checkFrom 0 (t.field 0) = .ok () := by
  cases t with
  | node kind line fields =>
    cases hmodule
    rw [check, checkFrom] at hcheck
    cases fields with
    | nil => rfl
    | cons body rest => exact checkFrom_of_checkAll hcheck List.mem_cons_self
  | _ => cases hmodule

end Userscript.Syntax
