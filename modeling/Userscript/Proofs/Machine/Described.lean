import Userscript.Machine.Rehearsal
import Userscript.Proofs.Machine.Entry
import Userscript.Proofs.Work

/-!
# Userscript.Proofs.Machine.Described

No run that fails is told of without words, if it is told of at all.

The words of an error begin with the name of its kind, and every kind that a script can meet has one: those of
objects by `Memory.nameOf`, those of sources because all that is wrong with a source is of a named kind. Only an error
with an integer of too many digits has no words (`Trouble.told_error_iff`); `unwriting` ends in one, wherever it is run
(`start_unwriting`).
-/

namespace Userscript

theorem append_ne_empty {front : String} (rest : String) (h : front ≠ "") : front ++ rest ≠ "" := by
  rw [ne_eq, String.append_eq_empty_iff]
  exact fun both => h both.1

theorem Fault.described_ne_empty {f : Fault} (named : f.kind ≠ "") : f.described ≠ "" := by
  unfold described
  split
  · exact named
  · rw [String.append_assoc]
    exact append_ne_empty _ named

namespace Machine

theorem Memory.nameOf_ne_empty (o : Option Object) : nameOf o ≠ "" := by
  unfold nameOf
  dsimp only
  split
  · decide
  · assumption

theorem Memory.typeName_ne_empty (m : Memory) (v : Value) : m.typeName v ≠ "" := by
  cases v with
  | ref r => exact nameOf_ne_empty _
  | builtin b => cases b <;> simp [typeName]
  | _ => simp [typeName]

theorem Memory.described_ne_empty (m : Memory) (e : Value) : m.described e ≠ "" := by
  rw [described]
  split
  · exact m.typeName_ne_empty e
  · rw [String.append_assoc]
    exact append_ne_empty _ (m.typeName_ne_empty e)

theorem Trouble.ne_empty_of_told {t : Trouble} {m : Memory} {text : String} (h : t.told m = .ok text) : text ≠ "" := by
  cases t with
  | endless =>
    cases h
    exact (by decide : "endless" ≠ "")
  | raised e =>
    rw [told] at h
    split at h
    · cases h
      exact m.described_ne_empty e
    · cases h

/-- An error goes untold only for want of words. -/
theorem Trouble.told_error_iff {t : Trouble} {m : Memory} {f : Fault} :
    t.told m = .error f ↔ (∃ e, t = .raised e ∧ m.isWritable e = false) ∧ f = wordless := by
  cases t with
  | endless => exact ⟨nofun, fun ⟨⟨_, same, _⟩, _⟩ => nomatch same⟩
  | raised e =>
    rw [told]
    split
    · next written =>
      refine ⟨nofun, ?_⟩
      rintro ⟨⟨_, ⟨⟩, unwritten⟩, -⟩
      exact absurd (written.symm.trans unwritten) (by decide)
    · next unwritten =>
      refine ⟨?_, ?_⟩
      · rintro ⟨⟩
        exact ⟨⟨e, rfl, Bool.eq_false_iff.mpr unwritten⟩, rfl⟩
      · rintro ⟨-, rfl⟩
        rfl

end Machine

namespace Syntax

mutual

theorem kind_of_checkFrom {depth : Nat} {f : Fault} (t : Tree) (h : checkFrom depth t = .error f) :
    f.kind = "UnsafeScriptError" := by
  cases t with
  | node kind line fields =>
    rw [checkFrom] at h
    split at h
    · cases h
      rfl
    · exact kind_of_checkAll fields h
  | list items => exact kind_of_checkAll items h
  | _ => cases h

theorem kind_of_checkAll {depth : Nat} {f : Fault} (ts : List Tree) (h : checkAll depth ts = .error f) :
    f.kind = "UnsafeScriptError" := by
  cases ts with
  | nil => cases h
  | cons t rest =>
    rw [checkAll] at h
    split at h
    · next refused =>
      cases h
      exact kind_of_checkFrom t refused
    · exact kind_of_checkAll rest h

end

theorem kind_of_validated {source : String} {f : Fault} (h : validated source = .error f) : f.kind ≠ "" := by
  unfold validated at h
  split at h
  · cases h
    decide
  · split at h
    · cases h
      exact (by decide : "UnsafeScriptError" ≠ "")
    · next t _ =>
      cases checked : check t with
      | ok _ =>
        rw [checked] at h
        cases h
      | error g =>
        rw [checked] at h
        cases h
        rw [kind_of_checkFrom t checked]
        decide

end Syntax

namespace Machine.Program

theorem ofSource_of_tree {longest : Int} {source : String} {t : Syntax.Tree} {p : Program}
    (short : (source.length : Int) ≤ longest) (read : Syntax.validated source = .ok t) (lowered : ofTree t = .ok p) :
    ofSource longest (.str source) = .ok p := by
  unfold ofSource lengthOf
  dsimp only [bind, Except.bind]
  rw [if_neg (by omega), read]
  exact lowered

theorem kind_of_lengthOf {source : Json} {f : Fault} (h : lengthOf source = .error f) : f.kind ≠ "" := by
  cases source <;> cases h <;> decide

theorem kind_of_ofTree {t : Syntax.Tree} {f : Fault} (h : ofTree t = .error f) : f.kind ≠ "" := by
  unfold ofTree at h
  split at h
  · cases h
    exact (by decide : "UnsafeScriptError" ≠ "")
  · cases h

/-- What is wrong with a source has words. -/
theorem described_ofSource {longest : Int} {source : Json} {f : Fault} (h : ofSource longest source = .error f) :
    f.described ≠ "" := by
  refine Fault.described_ne_empty ?_
  unfold ofSource at h
  cases length : lengthOf source with
  | error g =>
    rw [length] at h
    cases h
    exact kind_of_lengthOf length
  | ok n =>
    rw [length] at h
    change (if longest < (n : Int) then _ else _) = Except.error f at h
    split at h
    · cases h
      exact (by decide : "UnsafeScriptError" ≠ "")
    · cases source with
      | str s =>
        cases tree : Syntax.validated s with
        | error g =>
          simp only [tree] at h
          cases h
          exact Syntax.kind_of_validated tree
        | ok t =>
          simp only [tree] at h
          exact kind_of_ofTree h
      | _ =>
        cases h
        exact (by decide : "TypeError" ≠ "")

end Machine.Program

/-! ## An error without words -/

namespace Machine

variable {c : Calls} {fuel : Nat} {f g : Frame} {m n : Memory} {e : Value}

theorem Exec.runFrom_of_on (stepped : advance c f m = .done (.ok (.on g), n)) :
    runFrom c (fuel + 1) f m = runFrom c fuel g n := by
  rw [runFrom, stepped]

theorem Exec.runFrom_of_broken (stepped : advance c f m = .done (.ok (.broken e), n)) :
    runFrom c (fuel + 1) f m = .done (.error (.raised e), n) := by
  rw [runFrom, stepped]
  rfl

theorem Memory.get?_push_next (m : Memory) (o : Object) : (m.push o).get? m.next = some o := by
  simp [push, get?, next]

theorem throwing_of_isError {r : Ref} (known : m.isError (.ref r) = true) :
    Perform.throwing c (.ref r) m = .done (.ok (.ref r), m) := by
  have found : errorOf? c (.ref r) m = .done (.ok (some (.ref r)), m) := by
    change Dialogue.done (Except.ok (if m.isError (.ref r) = true then some (Value.ref r) else none), m) = _
    rw [if_pos known]
  rw [Perform.throwing, bind_done found]
  rfl

/-- The program of `raise ValueError(10**5000)`, an error with an integer of 5001 digits. -/
def unwriting : Program where
  signature := { name := Program.entryName, path := Program.entryName, parameters := Program.parameters }
  code := [.load .builtin "ValueError", .push (.int 10), .push (.int 5000), .binary .pow, .call 1 [], .raise 1]

/-- The memory that it leaves: one with that error. -/
def Memory.withUnwritten (m : Memory) : Memory :=
  ({ m with handling := none } : Memory).push (.error "ValueError" [.int (Int.pow 10 5000)] [])

theorem Memory.get?_withUnwritten (m : Memory) :
    m.withUnwritten.get? m.next = some (.error "ValueError" [.int (Int.pow 10 5000)] []) :=
  get?_push_next { m with handling := none } _

theorem Memory.isWritable_withUnwritten (m : Memory) : m.withUnwritten.isWritable (.ref m.next) = false := by
  have digits : (Datum.int (Int.pow 10 5000)).isWritable = false := by decide +kernel
  rw [isWritable, openDepth, writableIn, get?_withUnwritten]
  simp only [List.all_cons, List.all_nil, Bool.and_true]
  rw [writableIn]
  exact digits

/-- The frame of that program with some of its instructions done. -/
def unwritingAt (values : List Value) (n : Nat) (stack : List Value) : Frame where
  code := unwriting.code.drop n
  stack
  locals := Capability.names.zip values
  signature := unwriting.signature

theorem advance_unwritingAt_raise {values : List Value} {r : Ref} (known : m.isError (.ref r) = true) :
    Exec.advance c (unwritingAt values 5 [.ref r]) m = .done (.ok (.broken (.ref r)), m) := by
  have raises :
      Perform.perform c (.raise 1) (unwritingAt values 6 [.ref r]) m = .done (.error (.raised (.ref r)), m) := by
    change (Perform.throwing c (.ref r) m).bind _ = _
    rw [throwing_of_isError known]
    rfl
  change (Perform.perform c (.raise 1) (unwritingAt values 6 [.ref r]) m).bind _ = _
  rw [raises]
  rfl

/-- Whatever its capabilities are, and whatever is in memory, it ends in that error. -/
theorem start_unwriting (values : List Value) (m : Memory) :
    unwriting.start values m = .done (.error (.raised (.ref m.next)), m.withUnwritten) := by
  let n : Memory := { m with handling := none }
  let step (k : Nat) (stack : List Value) : Frame := unwritingAt values k stack
  have run (fuel : Nat) : Exec.runFrom calls (fuel + 6) (step 0 []) n =
      .done (.error (.raised (.ref m.next)), m.withUnwritten) := by
    have known : m.withUnwritten.isError (.ref m.next) = true := by
      rw [Memory.isError, Memory.get?_withUnwritten]
    have made : Exec.runFrom calls (fuel + 2) (step 4 [.int (Int.pow 10 5000), .type "ValueError"]) n =
        Exec.runFrom calls (fuel + 1) (step 5 [.ref m.next]) m.withUnwritten :=
      Exec.runFrom_of_on rfl
    rw [Exec.runFrom_of_on (g := step 1 [.type "ValueError"]) (n := n) rfl,
      Exec.runFrom_of_on (g := step 2 [.int 10, .type "ValueError"]) (n := n) rfl,
      Exec.runFrom_of_on (g := step 3 [.int 5000, .int 10, .type "ValueError"]) (n := n) rfl,
      Exec.runFrom_of_on (g := step 4 [.int (Int.pow 10 5000), .type "ValueError"]) (n := n) rfl, made,
      Exec.runFrom_of_broken (advance_unwritingAt_raise known)]
  have many : turns = (turns - 6) + 6 := rfl
  change (Exec.runFrom calls turns (step 0 []) n).bind _ = _
  rw [many, run]
  rfl

/-- Whether the tree of that code was read. -/
def isUnwriting : Except Fault Syntax.Tree → Bool
  | .ok (.node .module none [
      .list [
        .node .raiseStmt (some 1) [
          .node .call (some 1) [
            .node .name (some 1) [.word "ValueError", .blank],
            .list [
              .node .binOp (some 1) [
                .node .constant (some 1) [.literal (.int 10), .blank],
                .word "**",
                .node .constant (some 1) [.literal (.int 5000), .blank]]],
            .list []],
          .blank]],
      .list []]) => true
  | _ => false

theorem unwriting_of_source {longest : Int} (short : ("raise ValueError(10**5000)".length : Int) ≤ longest) :
    Program.ofSource longest (.str "raise ValueError(10**5000)") = .ok unwriting := by
  have read : isUnwriting (Syntax.validated "raise ValueError(10**5000)") = true := by decide +kernel
  unfold isUnwriting at read
  split at read
  · next tree => exact Program.ofSource_of_tree short tree (by cbv)
  · cases read

end Machine
end Userscript
