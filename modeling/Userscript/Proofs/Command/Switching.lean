import Userscript.Command
import Userscript.Proofs.Catalog.Closing
import Userscript.Proofs.Json.Kept
import Userscript.Proofs.Selection
import Userscript.Proofs.Url.Ascii

/-!
# Userscript.Proofs.Command.Switching

One command for the switches, on any file with settings.

* `Database.writable_theme_of_settingsIn`: settings that were read can be written;
* `Command.run_settings`: the command ends, and stores what it makes of the settings, if their theme has finite numbers
  only;
* `Command.run_settings_refused`: otherwise a change is refused.
-/

namespace Userscript

namespace Settings

variable {s : Settings}

theorem hostKey_bareHost {given : String} (ascii : Text.IsAscii given.toList)
    (trimmed : Text.trim (Url.bareHost given) = Url.bareHost given) :
    hostKey (Url.bareHost given) = Url.bareHost given := by
  rw [hostKey, trimmed, Text.lower_of_isSmall (Url.isSmall_bareHost ascii)]

theorem writable_theme_of_ofJson {v : Json} (hv : v.Writable) (h : ofJson v = .ok s) : s.theme.Writable := by
  unfold ofJson at h
  split at h
  · cases h
    exact trivial
  · split at h
    · cases h
      exact Json.of_orElse (Json.FieldsWritable.field hv "themeMode") trivial
    · cases h

end Settings

theorem Catalog.Database.writable_theme_of_settingsIn {s : Settings} {t : Tables} (h : settingsIn t = .ok s) :
    s.theme.Writable := by
  rw [settingsIn] at h
  split at h
  · cases h
    exact trivial
  · obtain ⟨v, loaded, made⟩ := bind_eq_ok h
    exact Settings.writable_theme_of_ofJson (writable_of_load loaded) made

/-! ## The command -/

namespace Command

open Catalog Catalog.Store

namespace Switches

variable {w : Switches} {s : Settings}

theorem theme_apply : (w.apply s).theme = s.theme := by
  have pauses (given : List String) (s : Settings) :
      (given.foldl (fun s given => s.pause (Url.bareHost given)) s).theme = s.theme := by
    induction given generalizing s with
    | nil => rfl
    | cons h rest ih =>
      rw [List.foldl_cons, ih, Settings.pause]
      split <;> rfl
  have resumes (given : List String) (s : Settings) :
      (given.foldl (fun s given => s.resume (Url.bareHost given)) s).theme = s.theme := by
    induction given generalizing s with
    | nil => rfl
    | cons h rest ih => rw [List.foldl_cons, ih, Settings.resume]
  rw [apply, resumes, pauses]

theorem pausedHosts_of_not_changes (same : w.changes s = false) : (w.apply s).pausedHosts = s.pausedHosts := by
  simp only [changes, Bool.or_eq_false_iff, decide_eq_false_iff_not, not_not] at same
  obtain ⟨⟨-, pauses⟩, resumes⟩ := same
  rw [resumes, pauses]

end Switches

variable (files : Files) (limits : Glob.Limits) (clock : Nat) (time : Nat → Json)

section Run

variable {d : Database} {s : Settings} {w : Switches}

/-- What a command for the switches does to settings that it read. -/
theorem run_settings_eq (settled : d.Settled) (stored : Database.settingsIn d.disk = .ok s) :
    (settings w).run files limits (upon d clock time) =
      let (r, e) :=
        if w.changes s then runOn (Database.saveSettings (w.apply s)) d.opened else (.ok (), d.opened)
      ((settings w).ending (r.map fun _ => printed [(w.apply s).toJson.pretty 0]), upon e.close clock time) := by
  have seen : Database.settingsIn d.seen = .ok s := by rw [settled.same, stored]
  let first : Engine := { store := upon d clock time, matcher := .new limits }
  let second : Engine := { first with store := upon d.opened clock time }
  have read : runOn (Engine.onStore Store.settings) first = (.ok s, second) := by
    have ran : runOn Store.settings first.store = ((runOn Database.settings d).1,
        upon (runOn Database.settings d).2 clock time) := rfl
    rw [Engine.runOn_onStore, ran, Database.runOn_settings settled.live, seen]
  have run : (settings w).run files limits (upon d clock time) =
      (let (r, e) := runOn (runSettings w) first; ((settings w).ending r, e.store.close)) := rfl
  rw [run, runSettings, runOn_bind_ok read]
  cases changes : w.changes s with
  | false => rfl
  | true =>
    have saves : runOn (Engine.onStore (Store.saveSettings (w.apply s))) second =
        ((runOn (Database.saveSettings (w.apply s)) d.opened).1,
          { second with store := upon (runOn (Database.saveSettings (w.apply s)) d.opened).2 clock time }) := rfl
    rw [if_pos rfl, if_pos rfl, runOn_bind, saves]
    rcases runOn (Database.saveSettings (w.apply s)) d.opened with ⟨f | _, e⟩ <;> rfl

theorem writable_theme_apply (stored : Database.settingsIn d.disk = .ok s) : (w.apply s).theme.Writable := by
  rw [Switches.theme_apply]
  exact Database.writable_theme_of_settingsIn stored

/-- Settings that a command made are saved, unless their theme has a number that is not finite. -/
theorem runOn_saveSettings_apply (stored : Database.settingsIn d.disk = .ok s) :
    runOn (Database.saveSettings (w.apply s)) d.opened =
      if (w.apply s).normal.theme.image.isStandard then
        (.ok (), d.committed { d.seen with
          settings := Fields.set Database.settingsKey (w.apply s).normal.toJson.text d.seen.settings })
      else (.error .refusedRow, d.opened) := by
  rw [Database.runOn_saveSettings d.live_opened, Database.settingsText_eq (writable_theme_apply stored)]
  dsimp only
  rw [Database.isStored_text, Settings.isStandard_image_toJson]
  rfl

/-- A command for the switches ends, and stores what it makes of the settings, if they change. -/
theorem run_settings (settled : d.Settled) (stored : Database.settingsIn d.disk = .ok s)
    (finite : w.changes s = true → (w.apply s).normal.theme.image.isStandard = true) :
    ∃ output e s', (settings w).run files limits (upon d clock time) = (.ok { code := 0, output }, upon e clock time) ∧
      e.Settled ∧ Database.settingsIn e.disk = .ok s' ∧
      (s' = s ∧ w.changes s = false ∨ s' = (w.apply s).reread) := by
  rw [run_settings_eq files limits clock time settled stored]
  cases changes : w.changes s with
  | false => exact ⟨_, d.opened.close, s, rfl, ⟨d.opened.live_close, rfl⟩, stored, .inl ⟨rfl, rfl⟩⟩
  | true =>
    rw [if_pos rfl, runOn_saveSettings_apply stored, if_pos (finite changes)]
    exact ⟨_, _, _, rfl, ⟨Database.live_close _, rfl⟩, Database.settingsIn_set (writable_theme_apply stored), .inr rfl⟩

theorem run_settings_refused (settled : d.Settled) (stored : Database.settingsIn d.disk = .ok s)
    (changes : w.changes s = true) (infinite : (w.apply s).normal.theme.image.isStandard = false) :
    ((settings w).run files limits (upon d clock time)).1 = .error .refusedRow := by
  rw [run_settings_eq files limits clock time settled stored, changes, if_pos rfl, runOn_saveSettings_apply stored,
    infinite]
  rfl

end Run
end Command
end Userscript
