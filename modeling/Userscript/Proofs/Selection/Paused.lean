import Userscript.Proofs.Selection
import Userscript.Proofs.Url.Address

/-!
# Userscript.Proofs.Selection.Paused

Pausing scripts on a host stops them on all its pages, and on no others.

* `isPaused_iff`: entries of the list of hosts are compared without blanks around them and in small letters;
* `Engine.select_of_obstacle`, `Engine.explain_of_obstacle`: what stops a page leaves it no batch and no script that
  could run;
* `paused_covers_host`: whatever address a page of the host has, an entry that names the host stops it, and no other.
-/

namespace Userscript

theorem Settings.isPaused_iff {s : Settings} {h : String} (named : h ≠ "") :
    s.isPaused h = true ↔ ∃ entry ∈ s.pausedHosts, Text.lower (Text.trim entry) = h := by
  simp only [isPaused, Bool.and_eq_true, decide_eq_true_eq, List.any_eq_true]
  exact and_iff_right named

namespace Engine

variable {limits : Glob.Limits} {scripts : List Script} {settings : Settings} {url : String} {e : Engine}

theorem select_of_obstacle (used : e.Uses limits (.ok (scripts, settings))) (there : obstacleOn url settings ≠ "")
    (phase : Json) : (runOn (select (.str url) phase) e).1 = .ok [] := by
  obtain ⟨_, -, ran⟩ := answers_select url phase e used
  rw [ran]
  exact batch_of_obstacle there phase scripts

theorem explain_of_obstacle (used : e.Uses limits (.ok (scripts, settings))) (there : obstacleOn url settings ≠ "") :
    ∃ verdicts, (runOn (explain (.str url)) e).1 = .ok verdicts ∧ verdicts.map (·.script) = scripts ∧
      ∀ v ∈ verdicts, v.runnable = false := by
  obtain ⟨_, -, ran⟩ := answers_explain url e used
  refine ⟨scripts.map (verdictOf limits url (obstacleOn url settings)), congrArg Prod.fst ran, ?_, ?_⟩
  · rw [List.map_map]
    exact List.map_id scripts
  · intro v mem
    obtain ⟨s, -, rfl⟩ := List.mem_map.mp mem
    exact runnable_of_obstacle there s

end Engine

/-- A paused host covers all addresses of its pages and no others. An address on the web, with any user information,
with or without a leading `www.` and a port, in any letter case and with anything behind it, names its host and nothing
else; so its page is stopped if and only if an entry of the list, trimmed and in small letters, is the name of the host.
While it is, every batch of the page is empty, and no script is told to be runnable there. -/
theorem paused_covers_host {h : String} (named : Url.IsHostName h) {a : Url.Address} (of : a.IsOf h) :
    Url.isWeb a.text = true ∧ Url.siteHost a.text = h ∧
    ∀ s : Settings,
      (s.isPaused (Url.siteHost a.text) = true ↔ ∃ entry ∈ s.pausedHosts, Text.lower (Text.trim entry) = h) ∧
      (s.isPaused (Url.siteHost a.text) = true →
        ∀ (limits : Glob.Limits) (scripts : List Script) (e : Engine), e.Uses limits (.ok (scripts, s)) →
          (∀ phase : Json, (runOn (Engine.select (.str a.text) phase) e).1 = .ok []) ∧
          ∃ verdicts, (runOn (Engine.explain (.str a.text)) e).1 = .ok verdicts ∧
            verdicts.map (·.script) = scripts ∧ ∀ v ∈ verdicts, v.runnable = false) := by
  have site : Url.siteHost a.text = h := of.siteHost_text named
  refine ⟨of.isWeb_text, site, fun s => ⟨?_, fun paused limits scripts e used => ?_⟩⟩
  · rw [site]
    exact Settings.isPaused_iff named.named
  · have there : Engine.obstacleOn a.text s ≠ "" := by
      rw [ne_eq, Engine.obstacleOn_eq_empty_iff]
      rintro ⟨-, -, clear⟩
      rw [paused] at clear
      cases clear
    exact ⟨Engine.select_of_obstacle used there, Engine.explain_of_obstacle used there⟩

/-- User information with delimiters in it, letter case, a port, and brackets behind the authority. -/
theorem paused_covers_host_b :
    let a : Url.Address := {
      scheme := "HTTPs".toList, user := "us:er\t@x:@".toList, site := "WWW.".toList, host := "B.Example".toList,
      port := ":8443".toList, tail := "?to=@[c.example:1]//".toList }
    a.text = "HTTPs://us:er\t@x:@WWW.B.Example:8443?to=@[c.example:1]//" ∧ Url.siteHost a.text = "b.example" ∧
      (runOn (Engine.select (.str a.text) (.str "document-idle")) Engine.shelf).1 = .ok [] := by
  intro a
  have named : Url.IsHostName "b.example" := ⟨by decide, List.all_eq_true.mp (by decide), by decide⟩
  have unsigned : ("us:er\t@x:".toList.all fun c => !Url.isSign c) = true := by decide
  have of : a.IsOf "b.example" := by
    constructor
    case scheme => exact .inr (by decide)
    case user =>
      refine .inr ⟨"us:er\t@x:".toList, rfl, Text.isAscii_of_all (by decide), fun c mem => ?_⟩
      simpa using List.all_eq_true.mp unsigned c mem
    case site => exact .inr (by decide)
    case host => decide
    case port => exact .inr ⟨"8443".toList, rfl, List.all_eq_true.mp (by decide)⟩
    case tail => exact fun c here => Option.some.inj here ▸ rfl
  obtain ⟨-, site, pauses⟩ := paused_covers_host named of
  obtain ⟨⟨-, paused⟩, silent⟩ := pauses { pausedHosts := ["b.example"] }
  have used : Engine.shelf.Uses {} Engine.shelf.store.contents := ⟨.new, rfl⟩
  exact ⟨by decide, site, (silent (paused ⟨"b.example", List.mem_cons_self, by decide +kernel⟩) {} _ _ used).1 _⟩

end Userscript
