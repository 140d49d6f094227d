import Mathlib.Data.List.Permutation
import Userscript.Machine.Program
import Userscript.Proofs.Syntax.Scopes

/-!
# Userscript.Proofs.Machine.Entry

What calling a script does: it runs its statements, or it makes a generator and runs nothing.

Which of the two is decided by the nodes that are computed in the script itself (`ownNodes`). For a script that
no declaration contradicts these hold the results of its scope (`scopeNodes`): what else belongs to the scope
are notes and comprehensions, and there a result is a contradiction.

* `mem_scopeNodes_of_own` and `mem_ownNodes_of_result` compare the two;
* `start_eq_begin`: the frame of a script is always made;
* `entry_runs_iff`: a script that passes the check runs its statements if and only if none of its definitions
  has a result in its decorators, defaults or notes.
-/

namespace Userscript.Machine

open Syntax

/-! ## What is computed in a function belongs to its scope -/

theorem mem_ownNodesBut_nil {through : Bool} {y : Tree} {i : Nat} {ts : List Tree} :
    y ∈ ownNodesBut through [] i ts ↔ ∃ t ∈ ts, y ∈ ownNodes through t := by
  induction ts generalizing i with
  | nil => simp [ownNodesBut]
  | cons t rest ih => simp [ownNodesBut, ih]

theorem bodyField?_mem_apart {kind : Kind} {i : Nat} (h : kind.bodyField? = some i) : i ∈ apart kind := by
  cases kind <;> simp_all [Kind.bodyField?, apart]

theorem mem_scopeNodes_clauses {line : Option Int} {target source y : Tree} {tests more : List Tree} :
    (∃ t ∈ [Tree.list (.node .comprehension line (target :: source :: tests) :: more)],
        y ∈ scopeNodes t) ↔
      y = .node .comprehension line (target :: source :: tests) ∨ y ∈ scopeNodes target ∨
        y ∈ scopeNodes source ∨ (∃ t ∈ tests, y ∈ scopeNodes t) ∨ ∃ t ∈ more, y ∈ scopeNodes t := by
  have hnode := @mem_scopeNodes_node y .comprehension line (target :: source :: tests) rfl
  simp only [List.mem_singleton, exists_eq_left, mem_scopeNodes_list, List.exists_mem_cons_iff, hnode,
    or_assoc]

/-- The nodes of a comprehension, given where those of its items and clauses belong. -/
theorem mem_scopeNodes_comprehension {kind : Kind} {line : Option Int} {clauses inside : List Tree}
    {y : Tree} (items : List Tree) (hkind : kind.bodyField? = none)
    (hinside : y ∈ inside → (∃ t ∈ items, y ∈ scopeNodes t) ∨ ∃ t ∈ clauses, y ∈ scopeNodes t)
    (hy : y ∈ .node kind line (items ++ clauses) :: inside) :
    y ∈ scopeNodes (.node kind line (items ++ clauses)) := by
  rw [mem_scopeNodes_node hkind]
  refine (List.mem_cons.1 hy).imp_right fun hy => ?_
  rcases hinside hy with ⟨t, ht, hy⟩ | ⟨t, ht, hy⟩
  · exact ⟨t, List.mem_append_left _ ht, hy⟩
  · exact ⟨t, List.mem_append_right _ ht, hy⟩

theorem mem_scopeNodes_of_own {through : Bool} {y : Tree} :
    ∀ t : Tree, y ∈ ownNodes through t → y ∈ scopeNodes t := by
  -- By the recursion of `ownNodes`, which leaves out all fields that `scopeNodesBut` does, the body, and more.
  refine (ownNodes.mutual_induct through
    (fun t => y ∈ ownNodes through t → y ∈ scopeNodes t)
    (fun without i ts => ∀ body? : Option Nat, (∀ j, body? = some j → j ∈ without) →
      y ∈ ownNodesBut through without i ts → y ∈ scopeNodesBut body? i ts)
    (fun enter items clauses => y ∈ gathered through enter items clauses →
      y ∈ items ∨ ∃ t ∈ clauses, y ∈ scopeNodes t)
    ?listComp ?setComp ?generatorExp ?dictComp ?node ?list ?other ?nil ?cons ?entered ?passed ?loose).1
  case listComp | setComp | generatorExp =>
    intro line item clauses hitem hclauses hy
    rw [ownNodes] at hy
    refine mem_scopeNodes_comprehension [item] rfl (fun hy => ?_) hy
    exact (hclauses hy).imp_left fun hy => ⟨item, List.mem_singleton_self item, hitem hy⟩
  case dictComp =>
    intro line key value clauses hkey hvalue hclauses hy
    rw [ownNodes] at hy
    refine mem_scopeNodes_comprehension [key, value] rfl (fun hy => ?_) hy
    refine (hclauses hy).imp_left fun hy => ?_
    rcases List.mem_append.1 hy with hy | hy
    · exact ⟨key, by simp, hkey hy⟩
    · exact ⟨value, by simp, hvalue hy⟩
  case node =>
    intro kind line fields hlist hset hgenerator hdict hfields hy
    rw [ownNodes.eq_5 _ _ _ _ hlist hset hgenerator hdict, List.mem_cons] at hy
    rw [scopeNodes, List.mem_cons]
    exact hy.imp_right (hfields _ fun j => bodyField?_mem_apart)
  case list =>
    intro items hitems hy
    rw [ownNodes] at hy
    rw [scopeNodes]
    exact hitems none (by simp) hy
  case other =>
    intro t hlist hset hgenerator hdict hnode hitems hy
    cases t with
    | node kind line fields => exact (hnode _ _ _ rfl).elim
    | list items => exact (hitems _ rfl).elim
    | _ => simp [ownNodes] at hy
  case nil =>
    intro without i body? _ hy
    simp [ownNodesBut] at hy
  case cons =>
    intro without i t rest ht hrest body? hbody hy
    rw [ownNodesBut, List.mem_append] at hy
    rw [mem_scopeNodesBut_cons]
    rcases hy with hy | hy
    · split at hy
      · cases hy
      · rename_i hout
        exact .inl ⟨fun h => hout (List.contains_iff_mem.2 (hbody i h)), ht hy⟩
    · exact .inr (hrest body? hbody hy)
  case entered =>
    intro items line target source tests more htarget hsource htests hmore hy
    rw [gathered, if_pos rfl] at hy
    simp only [List.mem_append, List.mem_cons] at hy
    rw [mem_scopeNodes_clauses]
    rcases hy with (hy | hy | (hy | hy) | hy) | hy
    · exact .inl hy
    · exact .inr (.inl hy)
    · exact .inr (.inr (.inl (htarget hy)))
    · exact .inr (.inr (.inr (.inl (hsource hy))))
    · exact .inr (.inr (.inr (.inr (.inl (mem_scopeNodesBut_none.1 (htests none (by simp) hy))))))
    · exact .inr (.inr (.inr (.inr (.inr (mem_scopeNodesBut_none.1 (hmore none (by simp) hy))))))
  case passed =>
    intro enter items line target source tests more henter hsource hy
    rw [gathered, if_neg henter] at hy
    rw [mem_scopeNodes_clauses]
    exact .inr (.inr (.inr (.inl (hsource hy))))
  case loose =>
    intro enter items clauses hloose hclauses hy
    rw [gathered.eq_2 _ _ _ _ hloose, List.mem_append] at hy
    refine hy.imp_right fun hy => ?_
    exact mem_scopeNodesBut_none.1 (hclauses none (by simp) hy)

/-! ## What belongs to the scope is computed in the function, or a contradiction -/

/-- The results in the scope of a tree are computed in the function that it stands in. -/
def Computed (t : Tree) : Prop :=
  ∀ through, ∀ y ∈ scopeNodes t, y.IsResult → y ∈ ownNodes through t

theorem not_isResult_of_misnoted {note : Tree} (hnote : misnoted? note = none) (h : Computed note) :
    ∀ y ∈ scopeNodes note, ¬ y.IsResult := by
  intro y hy hresult
  have hnone := List.find?_eq_none.1 (Option.map_eq_none_iff.1 hnote) y (h false y hy hresult)
  rcases hresult with hkind | hkind <;> simp [isComputed, hkind] at hnone

/-- Of a comprehension only the first source can hold results. -/
theorem not_isResult_of_misgathered {items clauses : List Tree} (hnone : misgathered? items clauses = none) :
    ∀ t ∈ gatheredParts items clauses, Computed t → ∀ y ∈ scopeNodes t, ¬ y.IsResult := by
  intro t ht hcomputed y hy hresult
  simp only [misgathered?, Option.map_eq_none_iff, Option.orElse_eq_orElse,
    Option.orElse_eq_or, Option.or_eq_none_iff] at hnone
  have hy : y ∈ ownNodesOf true (gatheredParts items clauses) :=
    mem_ownNodesBut_nil.2 ⟨t, ht, hcomputed true y hy hresult⟩
  have hnot := List.find?_eq_none.1 hnone.2.2 y hy
  rcases hresult with hkind | hkind <;> simp [hkind] at hnot

theorem mem_gathered {through enter : Bool} {items clauses : List Tree}
    (hnone : ∀ cs, clauses = [.list cs] → misgathered? items cs = none)
    (hitems : ∀ t ∈ items, Computed t) (hclauses : ∀ t ∈ clauses, Computed t)
    (hinside : ∀ line target source tests more,
      clauses = [.list (.node .comprehension line (target :: source :: tests) :: more)] →
        ∀ t ∈ target :: source :: (tests ++ more), Computed t)
    {y : Tree} (hresult : y.IsResult)
    (hy : (∃ t ∈ items, y ∈ scopeNodes t) ∨ ∃ t ∈ clauses, y ∈ scopeNodes t) :
    y ∈ gathered through enter (ownNodesOf through items) clauses := by
  by_cases hshape : ∃ line target source tests more,
      clauses = [.list (.node .comprehension line (target :: source :: tests) :: more)]
  · obtain ⟨line, target, source, tests, more, rfl⟩ := hshape
    have hnot := not_isResult_of_misgathered (hnone _ rfl)
    have hparts := hinside _ _ _ _ _ rfl
    rw [mem_scopeNodes_clauses] at hy
    -- A result in any part but the source would be one that the declarations contradict.
    rcases hy with ⟨t, ht, hy⟩ | rfl | hy | hy | ⟨t, ht, hy⟩ | ⟨t, ht, hy⟩
    · exact absurd hresult (hnot t (by simp [gatheredParts, ht]) (hitems t ht) y hy)
    · rcases hresult with h | h <;> cases h
    · exact absurd hresult (hnot target (by simp [gatheredParts]) (hparts _ (by simp)) y hy)
    · have hown := hparts source (by simp) through y hy hresult
      rw [gathered]
      split
      · simp [hown]
      · exact hown
    · exact absurd hresult (hnot t (by simp [gatheredParts, ht]) (hparts _ (by simp [ht])) y hy)
    · exact absurd hresult (hnot t (by simp [gatheredParts, ht]) (hparts _ (by simp [ht])) y hy)
  · have hloose (line target source tests more)
        (h : clauses = [.list (.node .comprehension line (target :: source :: tests) :: more)]) : False :=
      hshape ⟨line, target, source, tests, more, h⟩
    rw [gathered.eq_2 _ _ _ _ hloose, List.mem_append, ownNodesOf, mem_ownNodesBut_nil,
      mem_ownNodesBut_nil]
    rcases hy with ⟨t, ht, hy⟩ | ⟨t, ht, hy⟩
    · exact .inl ⟨t, ht, hitems t ht through y hy hresult⟩
    · exact .inr ⟨t, ht, hclauses t ht through y hy hresult⟩

structure Inside (inner outer : Tree) : Prop where
  smaller : sizeOf inner < sizeOf outer
  nodes : ∀ n ∈ inner.nodes, n ∈ outer.nodes

namespace Inside

theorem mem_nodesOf {n t : Tree} {ts : List Tree} (ht : t ∈ ts) (hn : n ∈ t.nodes) :
    n ∈ Tree.nodesOf ts := by
  induction ts with
  | nil => cases ht
  | cons u rest ih =>
    rw [Tree.nodesOf, List.mem_append]
    rcases List.mem_cons.1 ht with rfl | ht
    · exact .inl hn
    · exact .inr (ih ht)

theorem field {kind : Kind} {line : Option Int} {t : Tree} {fields : List Tree} (ht : t ∈ fields) :
    Inside t (.node kind line fields) where
  smaller := by
    have := List.sizeOf_lt_of_mem ht
    rw [Tree.node.sizeOf_spec]
    omega
  nodes n hn := by
    rw [Tree.nodes]
    exact List.mem_cons_of_mem _ (mem_nodesOf ht hn)

theorem item {t : Tree} {items : List Tree} (ht : t ∈ items) : Inside t (.list items) where
  smaller := by
    have := List.sizeOf_lt_of_mem ht
    rw [Tree.list.sizeOf_spec]
    omega
  nodes n hn := by
    rw [Tree.nodes]
    exact mem_nodesOf ht hn

theorem trans {a b c : Tree} (hab : Inside a b) (hbc : Inside b c) : Inside a c :=
  ⟨Nat.lt_trans hab.smaller hbc.smaller, fun n hn => hbc.nodes n (hab.nodes n hn)⟩

/-- The parts of a comprehension are inside its list of clauses. -/
theorem clause {t target source : Tree} (line : Option Int) {tests more : List Tree}
    (ht : t ∈ target :: source :: (tests ++ more)) :
    Inside t (.list (.node .comprehension line (target :: source :: tests) :: more)) := by
  simp only [List.mem_cons, List.mem_append] at ht
  rcases ht with rfl | rfl | ht | ht
  · exact (field List.mem_cons_self).trans (item List.mem_cons_self)
  · exact (field (by simp)).trans (item List.mem_cons_self)
  · exact (field (by simp [ht])).trans (item List.mem_cons_self)
  · exact item (List.mem_cons_of_mem _ ht)

end Inside

/-- Fields that belong to the scope but are not computed in the function are notes. -/
theorem misnoted_of_apart {kind : Kind} {line : Option Int} {fields : List Tree} {i : Nat} {t : Tree}
    (hhere : misdeclaredHere? (.node kind line fields) = none) (ht : fields[i]? = some t)
    (happart : i ∈ apart kind) (hbody : kind.bodyField? ≠ some i) : misnoted? t = none := by
  have hfunction (hkind : kind = .functionDef ∨ kind = .asyncFunctionDef) (hi : i = 4) :
      misnoted? t = none := by
    subst hi
    rcases fields with _ | ⟨name, _ | ⟨ps, _ | ⟨body, more⟩⟩⟩
    · cases ht
    · cases ht
    · cases ht
    obtain rfl : t = more.getD 1 .blank := by
      rw [List.getD_eq_getElem?_getD]
      exact (congrArg (·.getD .blank) ht).symm
    rcases hkind with rfl | rfl
    all_goals
      simp only [misdeclaredHere?, Option.orElse_eq_orElse, Option.orElse_eq_or,
        Option.or_eq_none_iff] at hhere
      exact hhere.1
  have hnote (hkind : kind = .arg ∨ kind = .annAssign) (hi : i = 1) : misnoted? t = none := by
    subst hi
    rcases fields with _ | ⟨first, _ | ⟨note, more⟩⟩
    · cases ht
    · cases ht
    cases ht
    rcases hkind with rfl | rfl <;> exact hhere
  have hfour (happart : i ∈ [2, 4]) (hbody : some 2 ≠ some i) : i = 4 := by
    simp only [List.mem_cons, List.not_mem_nil, or_false] at happart
    exact happart.resolve_left fun h => hbody (congrArg some h.symm)
  cases kind with
  | functionDef => exact hfunction (.inl rfl) (hfour happart hbody)
  | asyncFunctionDef => exact hfunction (.inr rfl) (hfour happart hbody)
  | arg => exact hnote (.inl rfl) (by simpa [apart] using happart)
  | annAssign => exact hnote (.inr rfl) (by simpa [apart] using happart)
  | lambda => simp_all [apart, Kind.bodyField?]
  | _ => cases happart

theorem mem_ownNodesBut {through : Bool} {without : List Nat} {body? : Option Nat} {y : Tree}
    (hresult : y.IsResult) {i : Nat} {ts : List Tree} (hcomputed : ∀ t ∈ ts, Computed t)
    (hnotes : ∀ j t, ts[j]? = some t → i + j ∈ without → body? ≠ some (i + j) → misnoted? t = none)
    (hy : y ∈ scopeNodesBut body? i ts) : y ∈ ownNodesBut through without i ts := by
  induction ts generalizing i with
  | nil => simp [scopeNodesBut] at hy
  | cons t rest ih =>
    rw [ownNodesBut, List.mem_append]
    rcases mem_scopeNodesBut_cons.1 hy with ⟨hbody, hy⟩ | hy
    · left
      have ht := hcomputed t List.mem_cons_self
      split
      · rename_i hwithout
        have hnote := hnotes 0 t rfl (List.contains_iff_mem.1 hwithout) hbody
        exact absurd hresult (not_isResult_of_misnoted hnote ht y hy)
      · exact ht through y hy hresult
    · right
      refine ih (fun t ht => hcomputed t (List.mem_cons_of_mem _ ht)) (fun j t ht => ?_) hy
      rw [Nat.add_right_comm]
      exact hnotes (j + 1) t ht

theorem computed_of_inside {t : Tree} (hhere : misdeclaredHere? t = none)
    (hinside : ∀ s, Inside s t → Computed s) : Computed t := by
  intro through y hy hresult
  cases t with
  | node kind line fields =>
    have hfields (t : Tree) (ht : t ∈ fields) : Computed t := hinside t (.field ht)
    -- A comprehension of the kind `kind`: `fields` are its items and then its clauses.
    have hclauses (items : List Tree) {clauses : List Tree} {enter : Bool} (hkind : kind.bodyField? = none)
        (hsplit : fields = items ++ clauses)
        (hnone : ∀ cs, clauses = [.list cs] → misgathered? items cs = none)
        (hy : y ∈ scopeNodes (.node kind line fields)) :
        y = .node kind line fields ∨ y ∈ gathered through enter (ownNodesOf through items) clauses := by
      subst hsplit
      refine ((mem_scopeNodes_node hkind).1 hy).imp_right fun hy => ?_
      refine mem_gathered hnone (fun t ht => hfields t (List.mem_append_left _ ht))
        (fun t ht => hfields t (List.mem_append_right _ ht)) ?_ hresult ?_
      · rintro line target source tests more rfl t ht
        exact hinside t ((Inside.clause line ht).trans (.field (by simp)))
      · simpa only [List.mem_append, or_and_right, exists_or] using hy
    have hone (item : Tree) : ownNodesOf through [item] = ownNodes through item := by
      simp [ownNodesOf, ownNodesBut]
    have htwo (key value : Tree) :
        ownNodesOf through [key, value] = ownNodes through key ++ ownNodes through value := by
      simp [ownNodesOf, ownNodesBut]
    -- Comprehensions, three of one item and one of two, go by their clauses; all other nodes go field by field.
    unfold ownNodes
    split
    iterate 3
      · rename_i item clauses heq
        cases heq
        rw [← hone, List.mem_cons]
        exact hclauses [item] rfl rfl (by rintro cs rfl; exact hhere) hy
    · rename_i key value clauses heq
      cases heq
      rw [← htwo, List.mem_cons]
      exact hclauses [key, value] rfl rfl (by rintro cs rfl; exact hhere) hy
    · rename_i heq
      cases heq
      rw [List.mem_cons]
      rw [scopeNodes, List.mem_cons] at hy
      refine hy.imp_right fun hy => mem_ownNodesBut hresult hfields (fun j t ht hj hbody => ?_) hy
      rw [Nat.zero_add] at hj hbody
      exact misnoted_of_apart hhere ht hj hbody
    · rename_i heq
      cases heq
    · rename_i hnode _
      exact (hnode _ _ _ rfl).elim
  | list items =>
    rw [ownNodes, mem_ownNodesBut_nil]
    obtain ⟨t, ht, hy⟩ := mem_scopeNodes_list.1 hy
    exact ⟨t, ht, hinside t (.item ht) through y hy hresult⟩
  | _ => simp [scopeNodes] at hy

/-- Where no node contradicts the declarations, the results in the scope are computed in the function. -/
theorem computed_of_declared (t : Tree) (hnodes : ∀ n ∈ t.nodes, misdeclaredHere? n = none) :
    Computed t := by
  induction hsize : sizeOf t using Nat.strongRecOn generalizing t with
  | ind size ih =>
    subst hsize
    have hhere : misdeclaredHere? t = none := by
      cases t with
      | node kind line fields => exact hnodes _ (by simp [Tree.nodes])
      | _ => rfl
    exact computed_of_inside hhere fun s hs =>
      ih _ hs.smaller s (fun n hn => hnodes n (hs.nodes n hn)) rfl

/-- Whether a function gives its results piece by piece is a matter of its scope. -/
theorem yields_iff {body : Tree} (hnodes : ∀ n ∈ body.nodes, misdeclaredHere? n = none) :
    Lower.yields body = true ↔ ∃ y ∈ scopeNodes body, y.IsResult := by
  have hkind (y : Tree) :
      (decide (y.kind? = some .yield) || decide (y.kind? = some .yieldFrom)) = true ↔ y.IsResult := by
    rw [Bool.or_eq_true, decide_eq_true_eq, decide_eq_true_eq, Tree.IsResult]
  simp only [Lower.yields, List.any_eq_true, hkind]
  constructor
  · rintro ⟨y, hy, hresult⟩
    exact ⟨y, mem_scopeNodes_of_own body hy, hresult⟩
  · rintro ⟨y, hy, hresult⟩
    exact ⟨y, computed_of_declared body hnodes false y hy hresult, hresult⟩

theorem misdeclaredHere?_eq_none {parameters : List String} {body : Tree}
    (h : misdeclared? parameters body = none) : ∀ n ∈ body.nodes, misdeclaredHere? n = none := by
  simp only [misdeclared?, Option.orElse_eq_orElse, Option.orElse_eq_or, Option.or_eq_none_iff,
    List.min?_eq_none_iff, List.append_eq_nil_iff, List.filterMap_eq_nil_iff] at h
  exact h.1.2

/-! ## The call of a script -/

theorem ofTree_eq_ok {t : Tree} {p : Program} (h : Program.ofTree t = .ok p) :
    (∀ n ∈ (t.field 0).nodes, misdeclaredHere? n = none) ∧
    lowered Program.entryName Capability.names t = .ok p.code ∧
    p.signature.manner = if Lower.yields (t.field 0) then .generator else .plain := by
  unfold Program.ofTree at h
  split at h
  · cases h
  · rename_i code hcode
    cases h
    refine ⟨?_, hcode, rfl⟩
    unfold lowered at hcode
    dsimp only at hcode
    split at hcode
    · cases hcode
    · rename_i hnone
      exact misdeclaredHere?_eq_none hnone

theorem bind_done {α β : Type} {x : Act α} {f : α → Act β} {m m' : Memory} {a : α}
    (h : x m = .done (.ok a, m')) : (x >>= f) m = f a m' := by
  change (x m).bind _ = _
  rw [h]
  rfl

/-- Steps that ask nothing and never fail can be taken one after another. -/
theorem each_done {α β : Type} {f : α → Act β} (hf : ∀ a m, ∃ b m', f a m = .done (.ok b, m')) :
    ∀ (as : List α) (m : Memory), ∃ bs m', Act.each f as m = .done (.ok bs, m') := by
  intro as
  induction as with
  | nil => exact fun m => ⟨[], m, rfl⟩
  | cons a rest ih =>
    intro m
    obtain ⟨b, m₁, hb⟩ := hf a m
    obtain ⟨bs, m₂, hbs⟩ := ih m₁
    refine ⟨b :: bs, m₂, ?_⟩
    rw [Act.each, bind_done hb, bind_done hbs]
    rfl

theorem frame_made (s : Signature) (code : Code) (captured : List (String × Ref))
    (values : List (String × Value)) (m : Memory) :
    ∃ frame m', Function.frame s code captured values m = .done (.ok frame, m') ∧ frame.code = code := by
  have hcell (name : String) (m : Memory) : ∃ cell m',
      (do
        let r ← Act.look (·.next)
        let _ ← Act.make (.cell (Fields.get? name values))
        return (name, r) : Act (String × Ref)) m = .done (.ok cell, m') := ⟨_, _, rfl⟩
  obtain ⟨own, m', hown⟩ := each_done hcell s.cells m
  exact ⟨_, m', bind_done hown, rfl⟩

theorem start_eq_begin (p : Program) (capabilities : List Value) (m : Memory) :
    ∃ frame m', frame.code = p.code ∧
      p.start capabilities m = Exec.begin calls p.signature frame m' := by
  obtain ⟨frame, m', hframe, hcode⟩ :=
    frame_made p.signature p.code [] (Capability.names.zip capabilities) { m with handling := none }
  refine ⟨frame, m', hcode, ?_⟩
  have hchange : Act.change (fun m => { m with handling := none }) m =
      .done (.ok (), { m with handling := none }) := rfl
  rw [Program.start, bind_done hchange, bind_done hframe]

/-- A script that passes has a result of its own exactly if one of its definitions has one in its decorators,
defaults or notes. Then calling it makes a generator, and nothing of it runs; else calling it runs its
statements. -/
theorem entry_runs_iff {t : Tree} (hmodule : t.kind? = some .module) (hcheck : check t = .ok ()) :
    ((∃ y ∈ scopeNodes (t.field 0), y.IsResult) ↔ HasOuterResult (t.field 0)) ∧
    ∀ p, Program.ofTree t = .ok p →
      lowered Program.entryName Capability.names t = .ok p.code ∧
      (p.signature.manner = .generator ↔ HasOuterResult (t.field 0)) ∧
      ∀ capabilities m, ∃ frame m', frame.code = p.code ∧
        (HasOuterResult (t.field 0) → p.start capabilities m =
          .done (.ok (.ref m'.next), m'.push (.generator p.signature (.fresh frame)))) ∧
        (¬ HasOuterResult (t.field 0) → p.start capabilities m = Exec.result calls frame m') := by
  have hscope := exists_result_iff (checkFrom_body hmodule hcheck)
  refine ⟨hscope, fun p hp => ?_⟩
  obtain ⟨hnodes, hcode, hmanner⟩ := ofTree_eq_ok hp
  have hyields : Lower.yields (t.field 0) = true ↔ HasOuterResult (t.field 0) :=
    (yields_iff hnodes).trans hscope
  refine ⟨hcode, ?_, fun capabilities m => ?_⟩
  · rw [hmanner, ← hyields]
    split <;> simp [*]
  · obtain ⟨frame, m', hframe, hstart⟩ := start_eq_begin p capabilities m
    refine ⟨frame, m', hframe, fun houter => ?_, fun houter => ?_⟩
    · rw [hstart, Exec.begin, hmanner, if_pos (hyields.2 houter)]
      rfl
    · rw [hstart, Exec.begin, hmanner, if_neg fun h => houter (hyields.1 h)]

/-- A script that sets a value, and defines a function with a result as default:

    GM_setValue('k', 1)
    def f(x=(yield)): pass
-/
def yieldingDefault : Tree :=
  .node .module none [
    .list [
      .node .exprStmt (some 1) [
        .node .call (some 1) [
          .node .name (some 1) [.word "GM_setValue", .blank],
          .list [
            .node .constant (some 1) [.literal (.text "k"), .blank],
            .node .constant (some 1) [.literal (.int 1), .blank]],
          .list []]],
      .node .functionDef (some 2) [
        .word "f",
        .node .arguments none [
          .list [], .list [.node .arg (some 2) [.word "x", .blank, .blank]], .blank, .list [], .list [],
          .blank, .list [.node .yield (some 2) [.blank]]],
        .list [.node .passStmt (some 2) []],
        .list [], .blank, .blank]],
    .list []]

theorem yieldingDefault_runs_nothing :
    check yieldingDefault = .ok () ∧ (∃ y ∈ scopeNodes (yieldingDefault.field 0), y.IsResult) ∧
    ∃ p, Program.ofTree yieldingDefault = .ok p ∧ p.signature.manner = .generator ∧
      ∀ capabilities m, ∃ r, p.start capabilities m = .done r := by
  have hcheck : check yieldingDefault = .ok () := by rfl
  have hresult : ∃ y ∈ scopeNodes (yieldingDefault.field 0), y.IsResult :=
    ⟨.node .yield (some 2) [.blank], by simp [yieldingDefault, Tree.field, scopeNodes, scopeNodesBut, Kind.bodyField?], .inl rfl⟩
  obtain ⟨hscope, hentry⟩ := entry_runs_iff (t := yieldingDefault) rfl hcheck
  have hlowered : (Program.ofTree yieldingDefault).isOk = true := by cbv
  obtain ⟨p, hp⟩ : ∃ p, Program.ofTree yieldingDefault = .ok p := by
    cases h : Program.ofTree yieldingDefault with
    | ok p => exact ⟨p, rfl⟩
    | error e =>
      rw [h] at hlowered
      cases hlowered
  obtain ⟨-, hmanner, hstart⟩ := hentry p hp
  refine ⟨hcheck, hresult, p, hp, hmanner.2 (hscope.1 hresult), fun capabilities m => ?_⟩
  obtain ⟨frame, m', -, hdone, -⟩ := hstart capabilities m
  exact ⟨_, hdone (hscope.1 hresult)⟩

end Userscript.Machine
