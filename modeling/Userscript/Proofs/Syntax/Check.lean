import Mathlib.Data.List.Basic
import Userscript.Syntax.Check

/-!
# Userscript.Proofs.Syntax.Check

A tree is judged node by node, wherever a node stands.

`placed` lists the nodes of a tree with the kinds of the nodes above them, each node before those in its
fields. `Placed.Forbidden` says of one such node that scripts may not use it; only for results that are
given piece by piece does it matter what stands above.

* `checkFrom_placed`: going through a tree with a count of functions is going through that list;
* `fault?_isSome_iff`: a node by itself is refused if and only if it is forbidden;
* `check_iff_forbidden`: a tree is refused if and only if a node of it is forbidden, and the line told is
  that of the first such node.
-/

namespace Userscript.Syntax

/-! ## Nodes and what stands above them -/

/-- A node of a tree, with the kinds of the nodes above it, the nearest first. -/
structure Placed where
  above : List Kind
  kind : Kind
  line : Option Int
  fields : List Tree

mutual

/-- The nodes of a tree that stands below nodes of the given kinds, each before those in its fields. -/
def placed (above : List Kind) : Tree → List Placed
  | .node kind line fields => ⟨above, kind, line, fields⟩ :: placedIn (kind :: above) fields
  | .list items => placedIn above items
  | _ => []

/-- The nodes of several trees in order. -/
def placedIn (above : List Kind) : List Tree → List Placed
  | [] => []
  | t :: rest => placed above t ++ placedIn above rest

end

namespace Placed

def tree (p : Placed) : Tree := .node p.kind p.line p.fields

def word (p : Placed) (i : Nat) : String := (p.fields.getD i .blank).text

/-- The texts in a field that holds a list. -/
def words (p : Placed) (i : Nat) : List String := (p.fields.getD i .blank).items.map Tree.text

end Placed

mutual

/-- Nothing is left out, and the order is that of the tree. -/
theorem map_tree_placed (above : List Kind) : ∀ t : Tree, (placed above t).map Placed.tree = t.nodes
  | .node kind line fields => by
    rw [placed, List.map_cons, map_tree_placedIn (kind :: above) fields, Tree.nodes]
    rfl
  | .list items => by rw [placed, map_tree_placedIn above items, Tree.nodes]
  | .blank => rfl
  | .word _ => rfl
  | .literal _ => rfl

theorem map_tree_placedIn (above : List Kind) :
    ∀ ts : List Tree, (placedIn above ts).map Placed.tree = Tree.nodesOf ts
  | [] => rfl
  | t :: rest => by
    rw [placedIn, List.map_append, map_tree_placed above t, map_tree_placedIn above rest, Tree.nodesOf]

end

/-! ## What is forbidden -/

/-- A name that begins with two low lines, or is one of those that reach past the capabilities. -/
def BadName (name : String) : Prop := ['_', '_'] <+: name.toList ∨ name ∈ blockedNames

/-- An attribute that begins with a low line, or is one of those that lead to frames, code and
formatting. -/
def BadAttribute (attr : String) : Prop := ['_'] <+: attr.toList ∨ attr ∈ blockedAttributes

/-- What scripts may not use, one rule after another. -/
inductive Placed.Forbidden (p : Placed) : Prop where
  | statement : p.kind ∈ [.importStmt, .importFrom, .globalStmt, .classDef] → Forbidden p
  | name : p.kind ∈ [.name, .functionDef, .asyncFunctionDef, .arg] → BadName (p.word 0) → Forbidden p
  | attr : p.kind = .attr → BadAttribute (p.word 1) → Forbidden p
  /-- A pattern that looks at an attribute by its name. -/
  | keyword : p.kind = .matchClass → (∃ attr ∈ p.words 2, BadAttribute attr) → Forbidden p
  /-- A result given piece by piece with no function around it. -/
  | result : p.kind ∈ [.yield, .yieldFrom] →
      (∀ k ∈ p.above, k ∉ [.functionDef, .asyncFunctionDef, .lambda]) → Forbidden p

theorem isReserved_iff (name : String) : isReserved name = true ↔ ['_', '_'] <+: name.toList := by
  unfold isReserved
  split
  · rename_i h
    simp [h]
  · rename_i h
    simp only [Bool.false_eq_true, false_iff]
    rintro ⟨rest, hrest⟩
    exact h rest hrest.symm

theorem isPrivate_iff (attr : String) : isPrivate attr = true ↔ ['_'] <+: attr.toList := by
  unfold isPrivate
  split
  · rename_i h
    simp [h]
  · rename_i h
    simp only [Bool.false_eq_true, false_iff]
    rintro ⟨rest, hrest⟩
    exact h rest hrest.symm

theorem nameFault?_isSome_iff (name : String) : (nameFault? name).isSome = true ↔ BadName name := by
  unfold nameFault? BadName
  rw [← isReserved_iff, ← List.contains_iff_mem]
  cases isReserved name <;> cases blockedNames.contains name <;> simp

theorem attributeFault?_isSome_iff (attr : String) :
    (attributeFault? attr).isSome = true ↔ BadAttribute attr := by
  unfold attributeFault? BadAttribute
  rw [← isPrivate_iff, ← List.contains_iff_mem]
  cases isPrivate attr <;> cases blockedAttributes.contains attr <;> simp

/-! ## The check -/

/-- How many of the nodes above open a function. -/
def Placed.depth (p : Placed) : Nat := p.above.countP Kind.opensFunction

/-- What is wrong with a node where it stands. -/
def Placed.fault? (p : Placed) : Option Fault :=
  (nodeFault? p.depth p.kind p.fields).map fun reason => .unsafeScript reason p.line

theorem Placed.depth_eq_zero_iff (p : Placed) :
    p.depth = 0 ↔ ∀ k ∈ p.above, k ∉ [.functionDef, .asyncFunctionDef, .lambda] := by
  rw [depth, List.countP_eq_zero]
  refine forall₂_congr fun k _ => ?_
  cases k <;> simp [Kind.opensFunction]

theorem Placed.fault?_isSome_iff (p : Placed) : p.fault?.isSome = true ↔ p.Forbidden := by
  have hdepth := p.depth_eq_zero_iff
  obtain ⟨above, kind, line, fields⟩ := p
  rw [fault?, Option.isSome_map]
  constructor
  · intro h
    unfold nodeFault? at h
    dsimp only at h
    split at h
    · exact .statement (by simp)
    · exact .statement (by simp)
    · exact .statement (by simp)
    · exact .statement (by simp)
    · exact .name (by simp) ((nameFault?_isSome_iff _).1 h)
    · exact .name (by simp) ((nameFault?_isSome_iff _).1 h)
    · exact .name (by simp) ((nameFault?_isSome_iff _).1 h)
    · exact .name (by simp) ((nameFault?_isSome_iff _).1 h)
    · exact .attr rfl ((attributeFault?_isSome_iff _).1 h)
    · rw [List.findSome?_isSome_iff] at h
      obtain ⟨attr, hmem, hattr⟩ := h
      exact .keyword rfl ⟨attr.text, List.mem_map_of_mem hmem, (attributeFault?_isSome_iff _).1 hattr⟩
    · split at h
      · exact .result (by simp) (hdepth.1 ‹_›)
      · cases h
    · split at h
      · exact .result (by simp) (hdepth.1 ‹_›)
      · cases h
    · cases h
  · intro h
    cases h with
    | statement hkind =>
      simp only [List.mem_cons, List.not_mem_nil, or_false] at hkind
      rcases hkind with rfl | rfl | rfl | rfl <;> rfl
    | name hkind hname =>
      have hsome := (nameFault?_isSome_iff _).2 hname
      simp only [List.mem_cons, List.not_mem_nil, or_false] at hkind
      rcases hkind with rfl | rfl | rfl | rfl <;> exact hsome
    | attr hkind hattr =>
      obtain rfl : kind = .attr := hkind
      exact (attributeFault?_isSome_iff _).2 hattr
    | keyword hkind hwords =>
      obtain rfl : kind = .matchClass := hkind
      obtain ⟨word, hmem, hword⟩ := hwords
      obtain ⟨attr, hattr, rfl⟩ := List.mem_map.1 hmem
      exact List.findSome?_isSome_iff.2 ⟨attr, hattr, (attributeFault?_isSome_iff _).2 hword⟩
    | result hkind habove =>
      have hzero := hdepth.2 habove
      simp only [List.mem_cons, List.not_mem_nil, or_false] at hkind
      rcases hkind with rfl | rfl <;> simp only [nodeFault?, hzero, if_true, Option.isSome_some]

/-- The first fault of nodes in order. -/
def firstFault (nodes : List Placed) : Except Fault Unit :=
  match nodes.findSome? Placed.fault? with
  | some fault => .error fault
  | none => .ok ()

theorem firstFault_append (nodes more : List Placed) :
    firstFault (nodes ++ more) =
      match firstFault nodes with
      | .error fault => .error fault
      | .ok _ => firstFault more := by
  unfold firstFault
  rw [List.findSome?_append]
  cases nodes.findSome? Placed.fault? <;> rfl

mutual

/-- The count of functions that the check carries along is that of the nodes above. -/
theorem checkFrom_placed (above : List Kind) : ∀ t : Tree,
    checkFrom (above.countP Kind.opensFunction) t = firstFault (placed above t)
  | .node kind line fields => by
    have hrest := checkAll_placed (kind :: above) fields
    have hdepth : (kind :: above).countP Kind.opensFunction =
        if kind.opensFunction then above.countP Kind.opensFunction + 1
        else above.countP Kind.opensFunction := by
      rw [List.countP_cons]
      split <;> rfl
    rw [hdepth] at hrest
    have hfault : (Placed.mk above kind line fields).fault? =
        (nodeFault? (above.countP Kind.opensFunction) kind fields).map (.unsafeScript · line) := rfl
    rw [checkFrom, placed, firstFault, List.findSome?_cons, hfault]
    cases nodeFault? (above.countP Kind.opensFunction) kind fields with
    | some reason => rfl
    | none => exact hrest
  | .list items => by rw [checkFrom, placed, checkAll_placed above items]
  | .blank => rfl
  | .word _ => rfl
  | .literal _ => rfl

theorem checkAll_placed (above : List Kind) : ∀ ts : List Tree,
    checkAll (above.countP Kind.opensFunction) ts = firstFault (placedIn above ts)
  | [] => rfl
  | t :: rest => by
    rw [checkAll, placedIn, checkFrom_placed above t, checkAll_placed above rest]
    exact (firstFault_append _ _).symm

end

theorem check_eq_firstFault (t : Tree) : check t = firstFault (placed [] t) := checkFrom_placed [] t

theorem firstFault_eq_ok_iff (nodes : List Placed) :
    firstFault nodes = .ok () ↔ ∀ p ∈ nodes, ¬ p.Forbidden := by
  have hnone : nodes.findSome? Placed.fault? = none ↔ ∀ p ∈ nodes, ¬ p.Forbidden := by
    rw [List.findSome?_eq_none_iff]
    refine forall₂_congr fun p _ => ?_
    rw [← p.fault?_isSome_iff, Bool.not_eq_true, Option.isSome_eq_false_iff, Option.isNone_iff_eq_none]
  rw [← hnone, firstFault]
  cases nodes.findSome? Placed.fault? <;> simp

theorem firstFault_eq_error_iff (nodes : List Placed) (line : Option Int) :
    (∃ reason, firstFault nodes = .error (.unsafeScript reason line)) ↔
      ∃ before p after, nodes = before ++ p :: after ∧ (∀ q ∈ before, ¬ q.Forbidden) ∧
        p.Forbidden ∧ p.line = line := by
  -- On the nodes in order: the first one that is forbidden is at the front, or it is the first of the rest.
  induction nodes with
  | nil =>
    constructor
    · rintro ⟨reason, h⟩
      cases h
    · rintro ⟨before, p, after, h, -⟩
      cases before <;> cases h
  | cons node rest ih =>
    cases hfault : node.fault? with
    | some fault =>
      have hbad : node.Forbidden := node.fault?_isSome_iff.1 (by rw [hfault]; rfl)
      obtain ⟨reason, -, rfl⟩ := Option.map_eq_some_iff.1 hfault
      have hfirst : firstFault (node :: rest) = .error (.unsafeScript reason node.line) := by
        rw [firstFault, List.findSome?_cons, hfault]
      rw [hfirst]
      constructor
      · rintro ⟨_, h⟩
        cases h
        exact ⟨[], node, rest, rfl, by simp, hbad, rfl⟩
      · rintro ⟨before, p, after, hsplit, hbefore, -, rfl⟩
        cases before with
        | nil =>
          cases hsplit
          exact ⟨reason, rfl⟩
        | cons q before =>
          cases hsplit
          exact absurd hbad (hbefore node List.mem_cons_self)
    | none =>
      have hgood : ¬ node.Forbidden := by
        rw [← node.fault?_isSome_iff, hfault]
        decide
      have hfirst : firstFault (node :: rest) = firstFault rest := by
        rw [firstFault, List.findSome?_cons, hfault, firstFault]
      rw [hfirst, ih]
      constructor
      · rintro ⟨before, p, after, rfl, hbefore, hp⟩
        refine ⟨node :: before, p, after, rfl, ?_, hp⟩
        simpa [hgood] using hbefore
      · rintro ⟨before, p, after, hsplit, hbefore, hp⟩
        cases before with
        | nil =>
          cases hsplit
          exact absurd hp.1 hgood
        | cons q before =>
          cases hsplit
          exact ⟨before, p, after, rfl, fun q hq => hbefore q (List.mem_cons_of_mem _ hq), hp⟩

/-- A tree passes if and only if none of its nodes is forbidden, wherever it stands; and else the line
that is told is that of the first forbidden node, each node coming before those in its fields. -/
theorem check_iff_forbidden (t : Tree) :
    (placed [] t).map Placed.tree = t.nodes ∧
    (check t = .ok () ↔ ∀ p ∈ placed [] t, ¬ p.Forbidden) ∧
    ∀ line, (∃ reason, check t = .error (.unsafeScript reason line)) ↔
      ∃ before p after, placed [] t = before ++ p :: after ∧ (∀ q ∈ before, ¬ q.Forbidden) ∧
        p.Forbidden ∧ p.line = line := by
  rw [check_eq_firstFault]
  exact ⟨map_tree_placed [] t, firstFault_eq_ok_iff _, firstFault_eq_error_iff _⟩

end Userscript.Syntax
