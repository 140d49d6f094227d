import Userscript.Proofs.Glob.Cache
import Mathlib.Data.Finset.Card
import Mathlib.Data.Finset.Dedup
import Mathlib.Data.List.TakeWhile

/-!
# Userscript.Proofs.Glob.Recency

When a matcher speaks of a bad pattern.

After any compiling and clearing a matcher keeps the patterns compiled since it was last cleared, most recently used
first, as far as its cache reaches (`holding`, `worked_eq`). So a pattern is looked up in vain if it was not compiled
since then, or if as many other patterns as the cache has places were compiled behind it (`Forgotten`,
`mem_kept_iff`), and this is when a pattern that breaks a limit is spoken of (`warned_once_per_stay`).

Patterns and uses are listed the latest first.
-/

namespace Userscript.Glob

/-! ## Lists by recency -/

section Recency

variable {α : Type} [DecidableEq α]

/-- What a list names, each once, where it stands first. -/
def byRecency : List α → List α
  | [] => []
  | a :: l => a :: (byRecency l).filter (· ≠ a)

theorem mem_byRecency {a : α} {l : List α} : a ∈ byRecency l ↔ a ∈ l := by
  induction l with
  | nil => rfl
  | cons b l ih =>
    rw [byRecency, List.mem_cons, List.mem_filter, ih, List.mem_cons]
    by_cases same : a = b <;> simp [same]

theorem nodup_byRecency (l : List α) : (byRecency l).Nodup := by
  induction l with
  | nil => exact List.nodup_nil
  | cons a l ih =>
    rw [byRecency, List.nodup_cons]
    exact ⟨by simp, ih.filter _⟩

theorem length_byRecency (l : List α) : (byRecency l).length = l.toFinset.card := by
  rw [← List.toFinset_card_of_nodup (nodup_byRecency l)]
  congr 1
  ext a
  rw [List.mem_toFinset, List.mem_toFinset, mem_byRecency]

omit [DecidableEq α] in
theorem takeWhile_filter_of_imp {p q : α → Bool} (stops : ∀ a, q a = false → p a = true) (l : List α) :
    (l.filter p).takeWhile q = (l.takeWhile q).filter p := by
  induction l with
  | nil => rfl
  | cons a l ih =>
    cases passes : q a with
    | false => simp [stops a passes, passes]
    | true => cases keeps : p a <;> simp [keeps, passes, ih]

/-- What stands before a member, by recency. -/
theorem takeWhile_byRecency (a : α) (l : List α) :
    (byRecency l).takeWhile (· ≠ a) = byRecency (l.takeWhile (· ≠ a)) := by
  induction l with
  | nil => rfl
  | cons b l ih =>
    by_cases same : b = a
    · simp [byRecency, same]
    · rw [byRecency, List.takeWhile_cons_of_pos (by simpa using same),
        List.takeWhile_cons_of_pos (by simpa using same), byRecency, takeWhile_filter_of_imp, ih]
      intro c stops
      obtain rfl : c = a := by simpa using stops
      simpa using Ne.symm same

/-- A member is among the first ones if few stand before it. -/
theorem mem_take_iff {a : α} {l : List α} {n : Nat} :
    a ∈ l.take n ↔ a ∈ l ∧ (l.takeWhile (· ≠ a)).length < n := by
  induction l generalizing n with
  | nil => simp
  | cons b l ih =>
    cases n with
    | zero => simp
    | succ n =>
      rw [List.take_succ_cons, List.mem_cons, List.mem_cons, ih]
      by_cases same : b = a
      · simp [same]
      · simp [same, Ne.symm same]

/-- A member that is taken out from behind the first ones leaves these. -/
theorem take_filter_of_notMem {a : α} {l : List α} {n : Nat} (behind : a ∉ l.take n) :
    (l.filter (· ≠ a)).take n = l.take n := by
  induction l generalizing n with
  | nil => rfl
  | cons b l ih =>
    cases n with
    | zero => rfl
    | succ n =>
      rw [List.take_succ_cons, List.mem_cons, not_or] at behind
      obtain ⟨differs, behind⟩ := behind
      rw [List.filter_cons_of_pos (by simpa using Ne.symm differs), List.take_succ_cons, List.take_succ_cons,
        ih behind]

/-- A member that is taken out from among the first ones makes room for one more. -/
theorem take_filter_of_mem {a : α} {l : List α} {n : Nat} (once : l.Nodup) (among : a ∈ l.take (n + 1)) :
    (l.filter (· ≠ a)).take n = (l.take (n + 1)).filter (· ≠ a) := by
  induction l generalizing n with
  | nil => simp
  | cons b l ih =>
    obtain ⟨first, once⟩ := List.nodup_cons.1 once
    rw [List.take_succ_cons] at among ⊢
    by_cases same : b = a
    · subst same
      have absent : l.filter (· ≠ b) = l := List.filter_eq_self.2 fun c hc => by
        simpa using fun eq : c = b => first (eq ▸ hc)
      have absent' : (l.take n).filter (· ≠ b) = l.take n := List.filter_eq_self.2 fun c hc => by
        simpa using fun eq : c = b => first (eq ▸ List.mem_of_mem_take hc)
      rw [List.filter_cons_of_neg (by simp), List.filter_cons_of_neg (by simp), absent, absent']
    · have among : a ∈ l.take n := (List.mem_cons.1 among).resolve_left (Ne.symm same)
      cases n with
      | zero => simp at among
      | succ n =>
        rw [List.filter_cons_of_pos (by simpa using same), List.filter_cons_of_pos (by simpa using same),
          List.take_succ_cons, ih once among]

end Recency

/-! ## What is kept -/

/-- The patterns that there is place for. -/
def placed (size : Option Int) (ps : List String) : List String :=
  match size with
  | none => ps
  | some n => ps.take n.toNat

def kept (size : Option Int) (compiled : List String) : List String := placed size (byRecency compiled)

/-- A pattern has to be compiled anew: it was not compiled before, or as many others as can be kept were compiled
since. -/
def Forgotten (size : Option Int) (p : String) (compiled : List String) : Prop :=
  p ∉ compiled ∨ ∃ n, size = some n ∧ n ≤ ((compiled.takeWhile (· ≠ p)).toFinset.card : Int)

theorem kept_nil (size : Option Int) : kept size [] = [] := by
  cases size with
  | none => rfl
  | some n => exact List.take_nil

theorem mem_kept_iff {size : Option Int} {p : String} {compiled : List String} :
    p ∈ kept size compiled ↔ ¬Forgotten size p compiled := by
  cases size with
  | none => simp [kept, placed, Forgotten, mem_byRecency]
  | some n =>
    rw [kept, placed, mem_take_iff, mem_byRecency, takeWhile_byRecency, length_byRecency, Forgotten, not_or, not_not]
    simp only [Option.some.injEq, exists_eq_left', not_le]
    exact and_congr_right fun _ => by omega

/-- A pattern that is kept comes to the front. -/
theorem kept_cons_of_mem {size : Option Int} {p : String} {compiled : List String} (there : p ∈ kept size compiled) :
    kept size (p :: compiled) = p :: (kept size compiled).filter (· ≠ p) := by
  cases size with
  | none => rfl
  | some n =>
    simp only [kept, placed] at there ⊢
    cases places : n.toNat with
    | zero => simp [places] at there
    | succ k =>
      rw [places] at there
      rw [byRecency, List.take_succ_cons, take_filter_of_mem (nodup_byRecency compiled) there]

/-- A pattern that is not kept comes to the front, and one may have to go. -/
theorem kept_cons_of_notMem {size : Option Int} {p : String} {compiled : List String}
    (gone : p ∉ kept size compiled) : kept size (p :: compiled) = placed size (p :: kept size compiled) := by
  cases size with
  | none =>
    have absent : (byRecency compiled).filter (· ≠ p) = byRecency compiled :=
      List.filter_eq_self.2 fun q hq => by simpa using fun eq : q = p => gone (eq ▸ hq)
    simp only [kept, placed, byRecency, absent]
  | some n =>
    simp only [kept, placed] at gone ⊢
    cases places : n.toNat with
    | zero => rfl
    | succ k =>
      rw [places] at gone
      have behind : p ∉ (byRecency compiled).take k := fun h => gone (List.take_subset_take_left _ (by omega) h)
      rw [byRecency, List.take_succ_cons, List.take_succ_cons, take_filter_of_notMem behind, List.take_take,
        Nat.min_eq_left (by omega)]

/-! ## The cache -/

section Limits

variable (limits : Limits)

/-- What the cache says of a pattern. -/
def entry (p : String) : Key × Compiled := (.text p, compileNew limits (.str p))

/-- The matcher that patterns were compiled with. -/
def holding (compiled : List String) : Matcher := ⟨limits, (kept limits.cacheSize compiled).map (entry limits)⟩

/-- What a pattern that has to be compiled anew makes the log say. -/
def warning (p : String) : Log := compileLog (.str p) (compileNew limits (.str p))

/-- A pattern that is longer or has more stars than is allowed. -/
def Breaks (p : String) : Prop :=
  (p.toList.length : Int) > limits.maxLength ∨ (p.toList.count '*' : Int) > limits.maxStars

theorem warning_cases (p : String) :
    (Breaks limits p ∧ ∃ text, warning limits p = [.warn text]) ∨ (¬Breaks limits p ∧ warning limits p = []) := by
  simp only [warning, compileNew, Breaks]
  split
  · next long => exact .inl ⟨.inl long, _, rfl⟩
  · next short =>
    split
    · next many => exact .inl ⟨.inr many, _, rfl⟩
    · next few => exact .inr ⟨not_or.2 ⟨short, few⟩, rfl⟩

variable {limits}

theorem kept?_map_entry (p : String) (ps : List String) :
    Matcher.kept? (.text p) (ps.map (entry limits)) = if p ∈ ps then some (compileNew limits (.str p)) else none := by
  induction ps with
  | nil => rfl
  | cons q ps ih =>
    simp only [Matcher.kept?, List.map_cons, List.find?_cons, List.mem_cons] at ih ⊢
    by_cases same : q = p
    · simp [entry, same]
    · have differs : decide ((entry limits q).1 = .text p) = false := by simpa [entry] using same
      rw [differs]
      simpa [Ne.symm same] using ih

theorem filter_map_entry (p : String) (ps : List String) :
    (ps.map (entry limits)).filter (fun e => e.1 ≠ .text p) = (ps.filter (· ≠ p)).map (entry limits) := by
  rw [List.filter_map]
  congr 2
  funext q
  simp [entry]

theorem evict_map_entry (ps : List String) :
    Matcher.evict limits.cacheSize (ps.map (entry limits)) = (placed limits.cacheSize ps).map (entry limits) := by
  cases limits.cacheSize with
  | none => rfl
  | some n => rw [Matcher.evict, placed, List.map_take]

open Classical in
/-- One compilation: the pattern is the most recent one, and it is spoken of only if it had been forgotten. -/
theorem compile_holding (p : String) (compiled : List String) :
    (holding limits compiled).compile (.str p) = .ok (compileNew limits (.str p), holding limits (p :: compiled),
      if Forgotten limits.cacheSize p compiled then warning limits p else []) := by
  rw [Matcher.compile]
  by_cases none : limits.cacheSize.any (· ≤ 0)
  · -- nothing is ever kept, and each compilation is the first
    obtain ⟨n, size, empty⟩ : ∃ n, limits.cacheSize = some n ∧ n ≤ 0 := by simpa [Option.any_eq_true] using none
    have nothing (ps : List String) : kept limits.cacheSize ps = [] := by
      rw [size, kept, placed, Int.toNat_of_nonpos empty, List.take_zero]
    have forgotten : Forgotten limits.cacheSize p compiled := .inr ⟨n, size, by omega⟩
    rw [if_pos (by exact none), if_pos forgotten]
    simp only [holding, nothing]
    rfl
  · rw [if_neg (by exact none)]
    simp only [Key.ofJson?, holding]
    rw [kept?_map_entry]
    -- What is kept moves to the front; what is not is put there, and the last one may have to go.
    by_cases there : p ∈ kept limits.cacheSize compiled
    · rw [if_pos there, if_neg (mem_kept_iff.1 there), filter_map_entry, kept_cons_of_mem there]
      rfl
    · rw [if_neg there, if_pos (not_not.1 fun h => there (mem_kept_iff.2 h)), kept_cons_of_notMem there,
        ← evict_map_entry]
      rfl

end Limits

/-! ## Histories -/

/-- A use of a matcher with text patterns. -/
inductive Use where
  | compile (p : String)
  | clear

def Use.call : Use → Matcher.Call
  | .compile p => .ask (.compile (.str p))
  | .clear => .clear

/-- A new matcher after uses, with what was logged. -/
def worked (limits : Limits) (uses : List Use) : Matcher × Log := Matcher.after (uses.map Use.call) (.new limits, [])

/-- The patterns compiled since the last clearing. -/
def current : List Use → List String
  | [] | .clear :: _ => []
  | .compile p :: earlier => p :: current earlier

variable {limits : Limits}

theorem worked_clear {uses : List Use} {log : Log} (before : worked limits uses = (holding limits (current uses), log)) :
    worked limits (.clear :: uses) = (holding limits [], log) := by
  rw [worked] at before ⊢
  simp only [List.map_cons, Use.call, Matcher.after, List.foldr_cons] at before ⊢
  rw [before]
  simp only [Matcher.perform, Matcher.clear, Matcher.new, holding, kept_nil, List.map_nil]

open Classical in
theorem worked_compile {uses : List Use} {log : Log} (p : String)
    (before : worked limits uses = (holding limits (current uses), log)) :
    worked limits (.compile p :: uses) = (holding limits (p :: current uses),
      log ++ if Forgotten limits.cacheSize p (current uses) then warning limits p else []) := by
  rw [worked] at before ⊢
  simp only [List.map_cons, Use.call, Matcher.after, List.foldr_cons] at before ⊢
  rw [before]
  simp only [Matcher.perform, Question.ask, runOn_map, compileM, runOn_bind, runOn_get, compile_holding, runOn_set,
    runOn_pure]

/-- A matcher keeps the patterns compiled since it was last cleared, by recency. -/
theorem worked_eq (limits : Limits) (uses : List Use) :
    worked limits uses = (holding limits (current uses), (worked limits uses).2) := by
  induction uses with
  | nil =>
    simp only [worked, List.map_nil, Matcher.after, List.foldr_nil, current, holding, Matcher.new, kept_nil]
  | cons use earlier ih =>
    cases use with
    | compile p => rw [worked_compile p ih, current]
    | clear => rw [worked_clear ih, current]

theorem current_compile_append {before : List Use} (fresh : current before = []) (ps : List String) :
    current (ps.map .compile ++ before) = ps := by
  induction ps with
  | nil => exact fresh
  | cons p ps ih => rw [List.map_cons, List.cons_append, current, ih]

/-- A pattern among few is not forgotten. -/
theorem not_forgotten_of_mem {size : Option Int} {p : String} {ps : List String} (there : p ∈ ps)
    (few : ∀ n, size = some n → (ps.toFinset.card : Int) ≤ n) : ¬Forgotten size p ps := by
  rintro (absent | ⟨n, rfl, many⟩)
  · exact absent there
  · have fewer : (ps.takeWhile (· ≠ p)).toFinset ⊂ ps.toFinset := by
      refine (Finset.ssubset_iff_of_subset fun q hq => ?_).2 ⟨p, List.mem_toFinset.2 there, fun hp => ?_⟩
      · exact List.mem_toFinset.2 ((List.takeWhile_sublist _).subset (List.mem_toFinset.1 hq))
      · simpa using List.mem_takeWhile_imp (List.mem_toFinset.1 hp)
    have := Finset.card_lt_card fewer
    have := few n rfl
    omega

/-- Few patterns: the log speaks of each once, in the order in which they were first compiled. -/
theorem log_of_few {before : List Use} (fresh : current before = []) (ps : List String)
    (few : ∀ n, limits.cacheSize = some n → (ps.toFinset.card : Int) ≤ n) :
    (worked limits (ps.map .compile ++ before)).2 =
      (worked limits before).2 ++ ps.dedup.reverse.flatMap (warning limits) := by
  induction ps with
  | nil => simp
  | cons p ps ih =>
    have fewer (n : Int) (size : limits.cacheSize = some n) : (ps.toFinset.card : Int) ≤ n :=
      le_trans (by exact_mod_cast Finset.card_le_card (by simp)) (few n size)
    rw [List.map_cons, List.cons_append, worked_compile p (worked_eq _ _), current_compile_append fresh, ih fewer]
    -- A pattern met before is among those that there is place for, so that it was not forgotten.
    by_cases there : p ∈ ps
    · rw [if_neg (not_forgotten_of_mem there fewer), List.dedup_cons_of_mem there, List.append_nil]
    · rw [if_pos (.inl there), List.dedup_cons_of_notMem there, List.reverse_cons, List.flatMap_append,
        List.flatMap_singleton, List.append_assoc]

/-- A bad pattern is spoken of once per stay in the cache. What is said of a pattern is one warning if it breaks a limit,
and nothing otherwise. After any compiling and clearing, compiling a pattern makes the log say it if and only if the
pattern breaks a limit and is met for the first time since the matcher was made or cleared, or as many different other
patterns as can be kept were compiled since it was compiled last. Without places that is each time, without a limit on
them only the first time. Clearing adds nothing. As long as no more patterns are compiled than can be kept, the log says
it of each once. -/
theorem warned_once_per_stay (limits : Limits) :
    (∀ p, (Breaks limits p ∧ ∃ text, warning limits p = [.warn text]) ∨ (¬Breaks limits p ∧ warning limits p = [])) ∧
    (∀ (uses : List Use) (p : String), ∃ said,
      (worked limits (.compile p :: uses)).2 = (worked limits uses).2 ++ said ∧
      (said = [] ∨ said = warning limits p) ∧
      (said ≠ [] ↔ Breaks limits p ∧ Forgotten limits.cacheSize p (current uses)) ∧
      (∀ n, limits.cacheSize = some n → n ≤ 0 → (said ≠ [] ↔ Breaks limits p)) ∧
      (limits.cacheSize = none → (said ≠ [] ↔ Breaks limits p ∧ p ∉ current uses))) ∧
    (∀ uses : List Use, (worked limits (.clear :: uses)).2 = (worked limits uses).2) ∧
    ∀ (before : List Use) (ps : List String), current before = [] →
      (∀ n, limits.cacheSize = some n → (ps.toFinset.card : Int) ≤ n) →
      (worked limits (ps.map .compile ++ before)).2 =
        (worked limits before).2 ++ ps.dedup.reverse.flatMap (warning limits) := by
  classical
  refine ⟨warning_cases limits, fun uses p => ⟨if Forgotten limits.cacheSize p (current uses) then warning limits p else [],
    ?_, by split <;> simp, ?_⟩, fun uses => ?_, fun before ps fresh few => log_of_few fresh ps few⟩
  · rw [worked_compile p (worked_eq _ _)]
  · have spoken : (if Forgotten limits.cacheSize p (current uses) then warning limits p else []) ≠ [] ↔
        Breaks limits p ∧ Forgotten limits.cacheSize p (current uses) := by
      rcases warning_cases limits p with ⟨breaks, text, told⟩ | ⟨keeps, told⟩
      · simp [told, breaks]
      · simp [told, keeps]
    refine ⟨spoken, fun n size empty => ?_, fun size => ?_⟩
    · rw [spoken, and_iff_left (.inr ⟨n, size, by omega⟩)]
    · rw [spoken, Forgotten, size]
      simp
  · rw [worked_clear (worked_eq _ _)]

/-- Two patterns in a cache of two, one of them with a star too many, compiled in turn after a clearing. -/
theorem warned_once_per_stay_pair :
    current [.clear, .compile "*"] = [] ∧
    (∀ n, (some 2 : Option Int) = some n → ((["*", "a", "*", "a"] : List String).toFinset.card : Int) ≤ n) ∧
    (worked { maxStars := 0, cacheSize := some 2 } [.compile "*", .compile "a", .compile "*", .compile "a", .clear,
        .compile "*"]).2 =
      (worked { maxStars := 0, cacheSize := some 2 } [.clear, .compile "*"]).2 ++
        (["*", "a", "*", "a"] : List String).dedup.reverse.flatMap (warning { maxStars := 0, cacheSize := some 2 }) := by
  have few (n : Int) (size : (some 2 : Option Int) = some n) :
      ((["*", "a", "*", "a"] : List String).toFinset.card : Int) ≤ n := by
    cases size
    decide
  exact ⟨rfl, few, (warned_once_per_stay { maxStars := 0, cacheSize := some 2 }).2.2.2 [.clear, .compile "*"]
    ["*", "a", "*", "a"] rfl few⟩

end Userscript.Glob
