import Userscript.Proofs.Command.Switching

/-!
# Userscript.Proofs.Command.Pausing

Hosts that are paused and resumed by commands, over whole histories.

* `Settings.IsTidy`: no host is on the list twice, none is empty, and each is written as hosts are compared; every
  command keeps that (`Switches.isTidy_apply`), and `Switches.mem_apply` is what it makes of the list;
* `Command.Holds`: a file that holds settings, and no other; `Command.Holds.run` is one command on it;
* `Command.paused_iff_last_command`: a host is paused if and only if the last command that named it only paused it.
-/

namespace Userscript

/-! ## Lists of hosts -/

namespace Settings

/-- A list of hosts on which each host stands once, as hosts are compared. -/
structure IsTidy (s : Settings) : Prop where
  nodup : s.pausedHosts.Nodup
  named : "" ∉ s.pausedHosts
  keyed : ∀ h ∈ s.pausedHosts, hostKey h = h

theorem isTidy_empty : IsTidy {} := ⟨.nil, List.not_mem_nil, List.forall_mem_nil _⟩

variable {s : Settings} {g h : String}

theorem IsTidy.isPaused_iff (tidy : s.IsTidy) (named : h ≠ "") : s.isPaused h = true ↔ h ∈ s.pausedHosts := by
  simp only [isPaused, Bool.and_eq_true, decide_eq_true_eq, List.any_eq_true]
  constructor
  · rintro ⟨-, entry, mem, rfl⟩
    rwa [tidy.keyed entry mem]
  · exact fun mem => ⟨named, h, mem, tidy.keyed h mem⟩

theorem mem_pause (named : g ≠ "") : g ∈ (s.pause h).pausedHosts ↔ g ∈ s.pausedHosts ∨ g = h := by
  rw [pause]
  split
  · next there =>
    simp only [Bool.or_eq_true, decide_eq_true_eq, List.contains_eq_mem] at there
    refine ⟨.inl, ?_⟩
    rintro (mem | rfl)
    · exact mem
    · exact there.resolve_left named
  · rw [List.mem_append, List.mem_singleton]

theorem IsTidy.pause (tidy : s.IsTidy) (keyed : hostKey h = h) : (s.pause h).IsTidy := by
  rw [Settings.pause]
  split
  · exact tidy
  · next fresh =>
    simp only [Bool.or_eq_true, decide_eq_true_eq, List.contains_eq_mem, not_or] at fresh
    refine ⟨?_, ?_, ?_⟩
    · exact List.nodup_append.2 ⟨tidy.nodup, List.nodup_singleton h, fun x mem y last => by
        rw [List.mem_singleton.1 last]
        rintro rfl
        exact fresh.2 mem⟩
    · rw [List.mem_append, List.mem_singleton, not_or]
      exact ⟨tidy.named, fun same => fresh.1 same.symm⟩
    · rw [List.forall_mem_append, List.forall_mem_singleton]
      exact ⟨tidy.keyed, keyed⟩

theorem IsTidy.mem_resume (tidy : s.IsTidy) : g ∈ (s.resume h).pausedHosts ↔ g ∈ s.pausedHosts ∧ g ≠ h := by
  rw [resume, tidy.nodup.mem_erase_iff, and_comm]

theorem IsTidy.resume (tidy : s.IsTidy) (h : String) : (s.resume h).IsTidy where
  nodup := tidy.nodup.erase h
  named mem := tidy.named (List.mem_of_mem_erase mem)
  keyed entry mem := tidy.keyed entry (List.mem_of_mem_erase mem)

/-- Hosts paused one after another. -/
theorem IsTidy.pauseAll {hosts : List String} (tidy : s.IsTidy) (keyed : ∀ h ∈ hosts, hostKey h = h) :
    (hosts.foldl (fun s h => s.pause h) s).IsTidy ∧
    ∀ g, g ≠ "" → (g ∈ (hosts.foldl (fun s h => s.pause h) s).pausedHosts ↔ g ∈ s.pausedHosts ∨ g ∈ hosts) := by
  induction hosts generalizing s with
  | nil => exact ⟨tidy, fun g _ => by simp⟩
  | cons h rest ih =>
    rw [List.forall_mem_cons] at keyed
    obtain ⟨tidy', mem'⟩ := ih (tidy.pause keyed.1) keyed.2
    refine ⟨tidy', fun g named => ?_⟩
    rw [List.foldl_cons, mem' g named, mem_pause named, List.mem_cons, or_assoc]

/-- Hosts resumed one after another. -/
theorem IsTidy.resumeAll {hosts : List String} (tidy : s.IsTidy) :
    (hosts.foldl (fun s h => s.resume h) s).IsTidy ∧
    ∀ g, g ∈ (hosts.foldl (fun s h => s.resume h) s).pausedHosts ↔ g ∈ s.pausedHosts ∧ g ∉ hosts := by
  induction hosts generalizing s with
  | nil => exact ⟨tidy, fun g => by simp⟩
  | cons h rest ih =>
    obtain ⟨tidy', mem'⟩ := ih (tidy.resume h)
    refine ⟨tidy', fun g => ?_⟩
    rw [List.foldl_cons, mem' g, tidy.mem_resume, List.mem_cons, not_or, and_assoc]

end Settings

/-! ## One command -/

namespace Command

namespace Switches

variable (w : Switches)

def paused : List String := w.pause.map Url.bareHost

def resumed : List String := w.resume.map Url.bareHost

/-- Hosts and URLs in ASCII, whose hosts have no blanks around them. -/
def IsPlain : Prop := ∀ given ∈ w.pause ++ w.resume,
  Text.IsAscii given.toList ∧ Text.trim (Url.bareHost given) = Url.bareHost given

variable {w} {s : Settings}

theorem IsPlain.keyed (plain : w.IsPlain) : ∀ h ∈ w.paused, Settings.hostKey h = h := by
  intro h mem
  obtain ⟨given, there, rfl⟩ := List.mem_map.1 mem
  obtain ⟨ascii, trimmed⟩ := plain given (List.mem_append_left _ there)
  exact Settings.hostKey_bareHost ascii trimmed

theorem apply_eq : w.apply s = w.resumed.foldl (fun s h => s.resume h)
    (w.paused.foldl (fun s h => s.pause h) { s with safeMode := w.safeMode.getD s.safeMode }) := by
  rw [apply, paused, resumed, List.foldl_map, List.foldl_map]

theorem isTidy_apply (tidy : s.IsTidy) (plain : w.IsPlain) : (w.apply s).IsTidy := by
  have start : Settings.IsTidy { s with safeMode := w.safeMode.getD s.safeMode } := { tidy with }
  rw [apply_eq]
  exact (start.pauseAll plain.keyed).1.resumeAll.1

/-- Pausing comes before resuming: what a command names under both is resumed. -/
theorem mem_apply (tidy : s.IsTidy) (plain : w.IsPlain) {h : String} (named : h ≠ "") :
    h ∈ (w.apply s).pausedHosts ↔ (h ∈ s.pausedHosts ∨ h ∈ w.paused) ∧ h ∉ w.resumed := by
  have start : Settings.IsTidy { s with safeMode := w.safeMode.getD s.safeMode } := { tidy with }
  obtain ⟨tidy', mem⟩ := start.pauseAll plain.keyed
  rw [apply_eq, tidy'.resumeAll.2 h, mem h named]

end Switches

/-! ## Commands on a file -/

open Catalog Catalog.Store

/-- A file that holds settings, and a connection with nothing to commit. -/
structure Holds (d : Database) (s : Settings) : Prop where
  settled : d.Settled
  stored : Database.settingsIn d.disk = .ok s
  theme : s.theme.IsKept

theorem holds_empty : Holds {} {} := ⟨.ofFile {}, rfl, Json.isKept_str "system"⟩

variable (files : Files) (limits : Glob.Limits) (clock : Nat) (time : Nat → Json)

/-- A command for the switches ends, and the file holds the list of hosts that it makes. -/
theorem Holds.run {d : Database} {s : Settings} (h : Holds d s) (w : Switches) :
    ∃ output e s', (settings w).run files limits (upon d clock time) = (.ok { code := 0, output }, upon e clock time) ∧
      Holds e s' ∧ s'.pausedHosts = (w.apply s).pausedHosts := by
  have theme : (w.apply s).normal.theme.IsKept := by
    refine Settings.isKept_normal ?_
    rw [Switches.theme_apply]
    exact h.theme
  have finite (_ : w.changes s = true) : (w.apply s).normal.theme.image.isStandard = true := by
    rw [theme.image]
    exact theme.standard
  obtain ⟨output, e, s', ran, settled, stored, same⟩ := run_settings files limits clock time h.settled h.stored finite
  refine ⟨output, e, s', ran, ?_⟩
  rcases same with ⟨rfl, same⟩ | rfl
  · exact ⟨⟨settled, stored, h.theme⟩, (Switches.pausedHosts_of_not_changes same).symm⟩
  · refine ⟨⟨settled, stored, Settings.isKept_normal ?_⟩, rfl⟩
    rw [theme.image]
    exact theme

/-! ## Histories -/

/-- The store that commands for the switches leave, one after another. -/
def afterSettings (ws : List Switches) (s : Store) : Store :=
  ws.foldl (fun s w => ((settings w).run files limits s).2) s

/-- The last command that names a host only pauses it. -/
def LastPaused (h : String) (ws : List Switches) : Prop :=
  ∃ earlier w later, ws = earlier ++ w :: later ∧ (h ∈ w.paused ∧ h ∉ w.resumed) ∧
    ∀ v ∈ later, h ∉ v.paused ∧ h ∉ v.resumed

theorem lastPaused_concat {h : String} {ws : List Switches} {w : Switches} :
    LastPaused h (ws ++ [w]) ↔ (LastPaused h ws ∨ h ∈ w.paused) ∧ h ∉ w.resumed := by
  constructor
  · rintro ⟨earlier, v, later, cut, pauses, quiet⟩
    rcases List.eq_nil_or_concat later with rfl | ⟨between, last, rfl⟩
    · obtain ⟨-, same⟩ := List.append_inj' cut rfl
      obtain rfl := List.singleton_inj.1 same
      exact ⟨.inr pauses.1, pauses.2⟩
    · rw [List.concat_eq_append, ← List.cons_append, ← List.append_assoc] at cut
      obtain ⟨rfl, same⟩ := List.append_inj' cut rfl
      obtain rfl := List.singleton_inj.1 same
      rw [List.concat_eq_append, List.forall_mem_append, List.forall_mem_singleton] at quiet
      exact ⟨.inl ⟨earlier, v, between, rfl, pauses, quiet.1⟩, quiet.2.2⟩
  · rintro ⟨paused, notResumed⟩
    by_cases named : h ∈ w.paused
    · exact ⟨ws, w, [], rfl, ⟨named, notResumed⟩, List.forall_mem_nil _⟩
    · obtain ⟨earlier, v, later, rfl, pauses, quiet⟩ := paused.resolve_right named
      refine ⟨earlier, v, later ++ [w], by rw [List.append_assoc, List.cons_append], pauses, ?_⟩
      rw [List.forall_mem_append, List.forall_mem_singleton]
      exact ⟨quiet, named, notResumed⟩

/-- What a history leaves: a tidy list with the hosts whose last command only paused them. -/
theorem holds_after {ws : List Switches} (plain : ∀ w ∈ ws, w.IsPlain) :
    ∃ d s, afterSettings files limits ws (onFile {} clock time) = upon d clock time ∧ Holds d s ∧ s.IsTidy ∧
      ∀ h, h ≠ "" → (h ∈ s.pausedHosts ↔ LastPaused h ws) := by
  induction ws using List.reverseRecOn with
  | nil =>
    refine ⟨{}, {}, rfl, holds_empty, Settings.isTidy_empty, fun h _ => ⟨(nomatch ·), ?_⟩⟩
    rintro ⟨earlier, w, later, cut, -⟩
    exact absurd cut.symm (by simp)
  | append_singleton ws w ih =>
    rw [List.forall_mem_append, List.forall_mem_singleton] at plain
    obtain ⟨d, s, left, holds, tidy, paused⟩ := ih plain.1
    obtain ⟨output, e, s', ran, holds', hosts⟩ := holds.run files limits clock time w
    have tidy' : s'.IsTidy := by
      have applied := Switches.isTidy_apply tidy plain.2
      exact ⟨hosts ▸ applied.nodup, hosts ▸ applied.named, hosts ▸ applied.keyed⟩
    refine ⟨e, s', ?_, holds', tidy', fun h named => ?_⟩
    · rw [afterSettings, List.foldl_append]
      change ((settings w).run files limits (afterSettings files limits ws (onFile {} clock time))).2 = _
      rw [left, ran]
    · rw [hosts, Switches.mem_apply tidy plain.2 named, paused h named, lastPaused_concat]

end Command
end Userscript
