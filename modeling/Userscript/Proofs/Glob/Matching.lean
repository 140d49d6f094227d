import Userscript.Glob.Matcher
import Userscript.Proofs.Glob.Search
import Userscript.Proofs.Work

/-!
# Userscript.Proofs.Glob.Matching

A matcher answers by the language of a pattern, whatever it was asked before.

The cache holds what compiling anew would give (`Matcher.Sound`), which compiling and clearing keep
(`Matcher.Reached.sound`). So `hitsM` answers as `freshHit`, which compiles anew, and that is
membership in the language of the trimmed pattern within the limits (`hitsM_iff_covers`).
-/

namespace Userscript.Glob

/-! ## The cache -/

namespace Matcher

/-- What is kept under the key of a pattern is the pattern compiled anew. -/
def Sound (m : Matcher) : Prop :=
  ∀ key c, (key, c) ∈ m.cache → ∀ pattern, Key.ofJson? pattern = some key →
    c = compileNew m.limits pattern

/-- The matchers that a new one becomes when patterns are compiled and the cache is cleared. -/
inductive Reached (limits : Limits) : Matcher → Prop where
  | new : Reached limits (.new limits)
  | compile {m m' : Matcher} {pattern : Json} {c : Compiled} {said : Log} :
      Reached limits m → m.compile pattern = .ok (c, m', said) → Reached limits m'
  | clear {m : Matcher} : Reached limits m → Reached limits m.clear

end Matcher

/-- Patterns that share a key compile alike: they are one text, or none of them is text. -/
theorem compileNew_eq_of_key {limits : Limits} {p q : Json} {key : Key}
    (hp : Key.ofJson? p = some key) (hq : Key.ofJson? q = some key) :
    compileNew limits p = compileNew limits q := by
  cases p <;> cases q <;> simp only [Key.ofJson?, Option.some.injEq, reduceCtorEq] at hp hq <;>
    subst hp <;> simp_all [compileNew]

namespace Matcher

theorem mem_evict {size : Option Int} {cache : List (Key × Compiled)} {e : Key × Compiled}
    (h : e ∈ evict size cache) : e ∈ cache := by
  cases size with
  | none => exact h
  | some n => exact List.mem_of_mem_take h

theorem mem_of_kept? {key : Key} {cache : List (Key × Compiled)} {c : Compiled}
    (h : kept? key cache = some c) : (key, c) ∈ cache := by
  obtain ⟨⟨k, d⟩, hfind, rfl⟩ := Option.map_eq_some_iff.1 h
  have hk : k = key := by simpa using List.find?_some hfind
  subst hk
  exact List.mem_of_find?_eq_some hfind

theorem Sound.new (limits : Limits) : (Matcher.new limits).Sound := by
  intro key c h
  cases h

/-- A pattern put in front of what was kept. -/
theorem Sound.cons {m : Matcher} (hm : m.Sound) {pattern : Json} {key : Key}
    (hkey : Key.ofJson? pattern = some key) {rest : List (Key × Compiled)}
    (hrest : ∀ e ∈ rest, e = (key, compileNew m.limits pattern) ∨ e ∈ m.cache) :
    Sound { m with cache := rest } := by
  intro k c hmem q hq
  rcases hrest (k, c) hmem with heq | hold
  · cases heq
    exact compileNew_eq_of_key hkey hq
  · exact hm k c hold q hq

/-- Compiling in a sound cache: the answer is that of compiling anew, and the cache stays sound. -/
theorem Sound.compile {m m' : Matcher} (hm : m.Sound) {pattern : Json} {c : Compiled} {said : Log}
    (h : m.compile pattern = .ok (c, m', said)) :
    c = compileNew m.limits pattern ∧ m'.limits = m.limits ∧ m'.Sound := by
  simp only [Matcher.compile] at h
  split at h
  · cases h
    exact ⟨rfl, rfl, hm⟩
  · split at h
    · cases h
    · rename_i key hkey
      split at h
      · rename_i found hkept
        cases h
        have hfound : c = compileNew m.limits pattern :=
          hm key c (mem_of_kept? hkept) pattern hkey
        refine ⟨hfound, rfl, hm.cons hkey ?_⟩
        intro e he
        rcases List.mem_cons.1 he with rfl | he
        · exact .inl (by rw [hfound])
        · exact .inr (List.mem_filter.1 he).1
      · cases h
        refine ⟨rfl, rfl, hm.cons hkey ?_⟩
        intro e he
        rcases List.mem_cons.1 (mem_evict he) with rfl | he
        · exact .inl rfl
        · exact .inr he

/-- However a matcher was used, it has its limits, and its cache is sound. -/
theorem Reached.sound {limits : Limits} {m : Matcher} (h : m.Reached limits) :
    m.limits = limits ∧ m.Sound := by
  induction h with
  | new => exact ⟨rfl, .new limits⟩
  | compile _ hc ih =>
    obtain ⟨hl, hs⟩ := ih
    obtain ⟨-, hl', hs'⟩ := hs.compile hc
    exact ⟨hl'.trans hl, hs'⟩
  | clear _ ih => exact ⟨ih.1, .new _⟩

/-- A text is never refused. -/
theorem exists_compile_str (m : Matcher) (pattern : String) :
    ∃ c m' said, m.compile (.str pattern) = .ok (c, m', said) := by
  simp only [Matcher.compile, Key.ofJson?]
  split
  · exact ⟨_, _, _, rfl⟩
  · split
    · exact ⟨_, _, _, rfl⟩
    · exact ⟨_, _, _, rfl⟩

end Matcher

/-! ## Verdicts -/

/-- Whether a pattern, trimmed and compiled anew, hits. -/
def freshHit (limits : Limits) (url pattern : String) : Bool :=
  match compileNew limits (.str (Text.trim pattern)) with
  | .ok ps => hits ps url.toList
  | .error _ => false

theorem Compiled.hits_str (c : Compiled) (url : String) :
    c.hits (.str url) = .ok (match c with
      | .ok ps => Glob.hits ps url.toList
      | .error _ => false) := by
  cases c <;> rfl

/-- A matcher in use answers as a new one, and is again one in use. -/
theorem runOn_hitsM {limits : Limits} {m : Matcher} (hm : m.Reached limits) (log : Log)
    (url pattern : String) :
    ∃ m' said, m'.Reached limits ∧
      runOn (hitsM (.str url) (.str pattern)) (m, log) =
        (.ok (freshHit limits url pattern), m', log ++ said) := by
  obtain ⟨c, m', said, hc⟩ := m.exists_compile_str (Text.trim pattern)
  obtain ⟨hlimits, hsound⟩ := hm.sound
  obtain ⟨rfl, -, -⟩ := hsound.compile hc
  refine ⟨m', said, hm.compile hc, ?_⟩
  have hcompile : runOn (compileM (.str (Text.trim pattern))) (m, log) =
      (.ok (compileNew m.limits (.str (Text.trim pattern))), m', log ++ said) := by
    simp only [compileM, runOn_bind, runOn_get, hc, runOn_set, runOn_pure]
  simp only [hitsM]
  rw [runOn_bind_ok hcompile, Compiled.hits_str, hlimits]
  rfl

theorem freshHit_iff_covers {limits : Limits} {url pattern : String} :
    freshHit limits url pattern = true ↔
      ((Text.trim pattern).toList.length : Int) ≤ limits.maxLength ∧
      ((Text.trim pattern).toList.count '*' : Int) ≤ limits.maxStars ∧
      Covers (Text.trim pattern).toList url.toList := by
  simp only [freshHit, compileNew]
  by_cases hlen : ((Text.trim pattern).toList.length : Int) > limits.maxLength
  · simp only [if_pos hlen, Bool.false_eq_true, false_iff]
    rintro ⟨h, -, -⟩
    omega
  · by_cases hstars : ((Text.trim pattern).toList.count '*' : Int) > limits.maxStars
    · simp only [if_neg hlen, if_pos hstars, Bool.false_eq_true, false_iff]
      rintro ⟨-, h, -⟩
      omega
    · simp only [if_neg hlen, if_neg hstars, hits_pieces_iff_covers]
      exact ⟨fun h => ⟨by omega, by omega, h⟩, fun h => h.2.2⟩

/-- A pattern hits a text if and only if, trimmed, it keeps the limits and the text is in its
language; there is always an answer. -/
theorem hitsM_iff_covers {limits : Limits} {m : Matcher} (hm : m.Reached limits) (log : Log)
    (url pattern : String) :
    ∃ verdict m' log', m'.Reached limits ∧
      runOn (hitsM (.str url) (.str pattern)) (m, log) = (.ok verdict, m', log') ∧
      (verdict = true ↔
        ((Text.trim pattern).toList.length : Int) ≤ limits.maxLength ∧
        ((Text.trim pattern).toList.count '*' : Int) ≤ limits.maxStars ∧
        Covers (Text.trim pattern).toList url.toList) := by
  obtain ⟨m', said, hm', hrun⟩ := runOn_hitsM hm log url pattern
  exact ⟨freshHit limits url pattern, m', log ++ said, hm', hrun, freshHit_iff_covers⟩

/-- A matcher that keeps one pattern, asked for a padded one whose pieces share characters. -/
theorem hitsM_iff_covers_kept :
    (⟨{}, [(.text "a*a", .ok [['a'], ['a']])]⟩ : Matcher).Reached {} ∧
      ∃ verdict m' log', m'.Reached {} ∧
        runOn (hitsM (.str "aba") (.str " a*ba*a ")) (⟨{}, [(.text "a*a", .ok [['a'], ['a']])]⟩, []) =
          (.ok verdict, m', log') ∧
        (verdict = true ↔
          ((Text.trim " a*ba*a ").toList.length : Int) ≤ ({} : Limits).maxLength ∧
          ((Text.trim " a*ba*a ").toList.count '*' : Int) ≤ ({} : Limits).maxStars ∧
          Covers (Text.trim " a*ba*a ").toList "aba".toList) := by
  have hc : (Matcher.new {}).compile (.str "a*a") =
      .ok (.ok [['a'], ['a']], ⟨{}, [(.text "a*a", .ok [['a'], ['a']])]⟩, []) := rfl
  have hm : (⟨{}, [(.text "a*a", .ok [['a'], ['a']])]⟩ : Matcher).Reached {} := .compile .new hc
  exact ⟨hm, hitsM_iff_covers hm [] "aba" " a*ba*a "⟩

end Userscript.Glob
