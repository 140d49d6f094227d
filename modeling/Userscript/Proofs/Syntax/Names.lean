import Mathlib.Data.List.GetD
import Userscript.Proofs.Syntax.Check

/-!
# Userscript.Proofs.Syntax.Names

Which names of variables the check looks at.

A variable is named by a node of its own, or by a word in a field of another node. Of words, the check looks at
those of functions and parameters (`Placed.checkedNames`). It does not look at the others, `Placed.plainNames`: what
an exception is bound to, what patterns capture, and what is said to belong to an outer function.

* `renamed` gives other names where the check does not look;
* `check_renamed`: it makes no difference to the check;
* `no_bad_name_iff`: so a tree that passes has no bad name at all just if there is none among these.
-/

namespace Userscript.Syntax

/-! ## Names of variables -/

namespace Tree

def word? : Tree → Option String
  | .word s => some s
  | _ => none

/-- The words of a field that is a word or a list. -/
def wordsIn : Tree → List String
  | .word s => [s]
  | .list items => items.filterMap word?
  | _ => []

end Tree

def Kind.checkedName? : Kind → Option Nat
  | .name | .functionDef | .asyncFunctionDef | .arg => some 0
  | _ => none

/-- The field with names of variables that the check does not look at. -/
def Kind.plainNames? : Kind → Option Nat
  | .matchStar | .nonlocalStmt => some 0
  | .exceptHandler | .matchAs => some 1
  | .matchMapping => some 2
  | _ => none

theorem Kind.plainNames?_of_checked {kind : Kind} {i : Nat} (h : kind.checkedName? = some i) :
    kind.plainNames? = none := by
  cases kind <;> first | rfl | cases h

namespace Placed

/-- The name of a variable that the check looks at. -/
def checkedNames (p : Placed) : List String :=
  match p.kind.checkedName? with
  | some i => (p.fields.getD i .blank).word?.toList
  | none => []

/-- The names of variables that the check does not look at. -/
def plainNames (p : Placed) : List String :=
  match p.kind.plainNames? with
  | some i => (p.fields.getD i .blank).wordsIn
  | none => []

/-- The names of variables that a node binds or reads itself. -/
def names (p : Placed) : List String := p.checkedNames ++ p.plainNames

/-- A node that scripts may use has no bad name where the check looks. -/
theorem not_badName_of_checked {p : Placed} (allowed : ¬ p.Forbidden) {name : String} (mem : name ∈ p.checkedNames) :
    ¬ BadName name := by
  intro bad
  rw [checkedNames] at mem
  split at mem
  · next i place =>
    have ⟨first, kinds⟩ : i = 0 ∧ p.kind ∈ [.name, .functionDef, .asyncFunctionDef, .arg] := by
      cases kind : p.kind <;> rw [kind] at place <;> cases place <;> simp
    subst first
    have word : p.word 0 = name := by
      rw [Placed.word]
      cases field : p.fields.getD 0 .blank <;> rw [field] at mem <;> simp_all [Tree.word?, Tree.text]
    exact allowed (.name kinds (word ▸ bad))
  · cases mem

end Placed

/-! ## Other names where the check does not look -/

namespace Tree

variable (f : String → String)

def mapWord : Tree → Tree
  | .word s => .word (f s)
  | t => t

/-- The words of a field that is a word or a list changed. -/
def mapWordsIn : Tree → Tree
  | .word s => .word (f s)
  | .list items => .list (items.map (mapWord f))
  | t => t

end Tree

/-- The fields of a node with other names where the check does not look. -/
def renamePlain (f : String → String) (kind : Kind) (fields : List Tree) : List Tree :=
  match kind.plainNames? with
  | some i => fields.modify i (Tree.mapWordsIn f)
  | none => fields

mutual

/-- A tree with other names wherever the check does not look. -/
def renamed (f : String → String) : Tree → Tree
  | .node kind line fields => .node kind line (renamePlain f kind (renamedAll f fields))
  | .list items => .list (renamedAll f items)
  | .blank => .blank
  | .word s => .word s
  | .literal value => .literal value

/-- Trees with other names wherever the check does not look. -/
def renamedAll (f : String → String) : List Tree → List Tree
  | [] => []
  | t :: rest => renamed f t :: renamedAll f rest

end

/-- A node with other names where the check does not look, in the node itself and below. -/
def Placed.renamed (f : String → String) (p : Placed) : Placed :=
  { p with fields := renamePlain f p.kind (renamedAll f p.fields) }

variable {f : String → String}

@[simp] theorem Placed.kind_renamed (p : Placed) : (p.renamed f).kind = p.kind := rfl

@[simp] theorem Placed.fields_renamed (p : Placed) :
    (p.renamed f).fields = renamePlain f p.kind (renamedAll f p.fields) := rfl

theorem renamedAll_eq_map (ts : List Tree) : renamedAll f ts = ts.map (renamed f) := by
  induction ts with
  | nil => rfl
  | cons t rest ih => rw [renamedAll, ih, List.map_cons]

theorem getD_renamedAll (ts : List Tree) (i : Nat) :
    (renamedAll f ts).getD i .blank = renamed f (ts.getD i .blank) := by
  rw [renamedAll_eq_map]
  exact List.getD_map ts .blank (renamed f)

theorem text_renamed (t : Tree) : (renamed f t).text = t.text := by
  cases t <;> rfl

theorem items_renamed (t : Tree) : (renamed f t).items = t.items.map (renamed f) := by
  cases t with
  | list items => exact renamedAll_eq_map items
  | _ => rfl

theorem word?_renamed (t : Tree) : (renamed f t).word? = t.word? := by
  cases t <;> rfl

theorem wordsIn_renamed (t : Tree) : (renamed f t).wordsIn = t.wordsIn := by
  cases t with
  | list items =>
    rw [renamed, renamedAll_eq_map, Tree.wordsIn, List.filterMap_map, Tree.wordsIn]
    exact congrArg (List.filterMap · items) (funext word?_renamed)
  | _ => rfl

theorem wordsIn_mapWordsIn (t : Tree) : (t.mapWordsIn f).wordsIn = t.wordsIn.map f := by
  have word?_mapWord (t : Tree) : (t.mapWord f).word? = t.word?.map f := by cases t <;> rfl
  cases t with
  | list items =>
    rw [Tree.mapWordsIn, Tree.wordsIn, List.filterMap_map, Tree.wordsIn, List.map_filterMap]
    exact congrArg (List.filterMap · items) (funext word?_mapWord)
  | _ => rfl

/-! ## The nodes of a renamed tree -/

theorem placedIn_modify {above : List Kind} {g : Tree → Tree} (same : ∀ t, placed above (g t) = placed above t)
    (ts : List Tree) (i : Nat) : placedIn above (ts.modify i g) = placedIn above ts := by
  induction ts generalizing i with
  | nil => cases i <;> rfl
  | cons t rest ih =>
    cases i with
    | zero => rw [List.modify_zero_cons, placedIn, same, placedIn]
    | succ i => rw [List.modify_succ_cons, placedIn, ih, placedIn]

theorem placedIn_map {above : List Kind} {g : Tree → Tree} (same : ∀ t, placed above (g t) = placed above t)
    (ts : List Tree) : placedIn above (ts.map g) = placedIn above ts := by
  induction ts with
  | nil => rfl
  | cons t rest ih => rw [List.map_cons, placedIn, same, ih, placedIn]

theorem placed_mapWordsIn (above : List Kind) (t : Tree) : placed above (t.mapWordsIn f) = placed above t := by
  have placed_mapWord (t : Tree) : placed above (t.mapWord f) = placed above t := by cases t <;> rfl
  cases t with
  | list items => rw [Tree.mapWordsIn, placed, placedIn_map placed_mapWord, placed]
  | _ => rfl

theorem placedIn_renamePlain (above : List Kind) (kind : Kind) (fields : List Tree) :
    placedIn above (renamePlain f kind fields) = placedIn above fields := by
  rw [renamePlain]
  split
  · exact placedIn_modify (placed_mapWordsIn above) fields _
  · rfl

mutual

theorem placed_renamed (above : List Kind) : ∀ t : Tree,
    placed above (renamed f t) = (placed above t).map (Placed.renamed f)
  | .node kind line fields => by
    rw [renamed, placed, placedIn_renamePlain, placedIn_renamedAll (kind :: above) fields, placed, List.map_cons]
    rfl
  | .list items => by rw [renamed, placed, placedIn_renamedAll above items, placed]
  | .blank => rfl
  | .word _ => rfl
  | .literal _ => rfl

theorem placedIn_renamedAll (above : List Kind) : ∀ ts : List Tree,
    placedIn above (renamedAll f ts) = (placedIn above ts).map (Placed.renamed f)
  | [] => rfl
  | t :: rest => by
    rw [renamedAll, placedIn, placed_renamed above t, placedIn_renamedAll above rest, placedIn, List.map_append]

end

/-- The check looks at fields of nodes in which no names are changed, and at words outside of these. -/
theorem nodeFault?_renamed (depth : Nat) (kind : Kind) (fields : List Tree) :
    nodeFault? depth kind (renamePlain f kind (renamedAll f fields)) = nodeFault? depth kind fields := by
  rw [renamePlain]
  split
  · next i plain => cases kind <;> first | rfl | cases plain
  · unfold nodeFault?
    simp only [getD_renamedAll, text_renamed, items_renamed, List.findSome?_map, Function.comp_def]

theorem Placed.fault?_renamed (p : Placed) : (p.renamed f).fault? = p.fault? :=
  congrArg (Option.map fun reason => Fault.unsafeScript reason p.line) (nodeFault?_renamed p.depth p.kind p.fields)

theorem Placed.checkedNames_renamed (p : Placed) : (p.renamed f).checkedNames = p.checkedNames := by
  rw [checkedNames, checkedNames, kind_renamed, fields_renamed]
  cases place : p.kind.checkedName? with
  | none => rfl
  | some i =>
    rw [renamePlain, Kind.plainNames?_of_checked place]
    dsimp only
    rw [getD_renamedAll, word?_renamed]

theorem Placed.plainNames_renamed (p : Placed) : (p.renamed f).plainNames = p.plainNames.map f := by
  rw [plainNames, plainNames, kind_renamed, fields_renamed]
  cases place : p.kind.plainNames? with
  | none => rfl
  | some i =>
    have changed : (renamePlain f p.kind (renamedAll f p.fields)).getD i .blank =
        ((renamedAll f p.fields).getD i .blank).mapWordsIn f := by
      rw [renamePlain, place]
      simp only [List.getD_eq_getElem?_getD, List.getElem?_modify_eq]
      cases (renamedAll f p.fields)[i]? <;> rfl
    dsimp only
    rw [changed, wordsIn_mapWordsIn, getD_renamedAll, wordsIn_renamed]

/-- The check is the same whatever names stand where it does not look. -/
theorem check_renamed (f : String → String) (t : Tree) : check (renamed f t) = check t := by
  rw [check_eq_firstFault, check_eq_firstFault, placed_renamed, firstFault, List.findSome?_map, firstFault]
  rw [show Placed.fault? ∘ Placed.renamed f = Placed.fault? from funext Placed.fault?_renamed]

/-- A tree that passes has no bad name at all if and only if it has none where the check does not look. There it may
have any: the tree still passes when the names there are changed and all others are kept. -/
theorem no_bad_name_iff {t : Tree} (passes : check t = .ok ()) :
    ((∀ p ∈ placed [] t, ∀ name ∈ p.names, ¬ BadName name) ↔
      ∀ p ∈ placed [] t, ∀ name ∈ p.plainNames, ¬ BadName name) ∧
    ∀ f, check (renamed f t) = .ok () ∧
      (placed [] (renamed f t)).map Placed.checkedNames = (placed [] t).map Placed.checkedNames ∧
      (placed [] (renamed f t)).map Placed.plainNames = (placed [] t).map fun p => p.plainNames.map f := by
  have allowed : ∀ p ∈ placed [] t, ¬ p.Forbidden :=
    (firstFault_eq_ok_iff _).mp (check_eq_firstFault t ▸ passes)
  refine ⟨⟨fun none p mem name plain => none p mem name (List.mem_append_right _ plain),
    fun none p mem name named => ?_⟩, fun f => ⟨(check_renamed f t).trans passes, ?_, ?_⟩⟩
  · obtain checked | plain := List.mem_append.mp named
    · exact Placed.not_badName_of_checked (allowed p mem) checked
    · exact none p mem name plain
  · rw [placed_renamed, List.map_map]
    exact congrArg (List.map · _) (funext Placed.checkedNames_renamed)
  · rw [placed_renamed, List.map_map]
    exact congrArg (List.map · _) (funext Placed.plainNames_renamed)

/-- A tree that binds an exception to a name that begins with two low lines. -/
theorem no_bad_name_iff_handler :
    let handler (name : String) : Tree := .node .exceptHandler (some 3)
      [.node .name (some 3) [.word "ValueError"], .word name, .list [.node .passStmt (some 4) []]]
    let script (name : String) : Tree := .node .module none [.list [.node .tryStmt (some 1)
      [.list [.node .passStmt (some 2) []], .list [handler name], .list [], .list []]], .list []]
    check (script "e") = .ok () ∧ renamed (fun _ => "__x") (script "e") = script "__x" ∧
      check (script "__x") = .ok () ∧ ¬ ∀ p ∈ placed [] (script "__x"), ∀ name ∈ p.names, ¬ BadName name := by
  intro handler script
  have passes : check (script "e") = .ok () := rfl
  have changed : renamed (fun _ => "__x") (script "e") = script "__x" := rfl
  obtain ⟨-, others⟩ := no_bad_name_iff passes
  have passes' : check (script "__x") = .ok () := changed ▸ (others fun _ => "__x").1
  refine ⟨passes, changed, passes', fun none => ?_⟩
  have bound : ∃ p ∈ placed [] (script "__x"), "__x" ∈ p.plainNames := by decide
  obtain ⟨p, mem, plain⟩ := bound
  exact (no_bad_name_iff passes').1.mp none p mem "__x" plain (.inl (by decide))

end Userscript.Syntax
