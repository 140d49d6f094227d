import Userscript.Url.Authority

/-!
# Userscript.Proofs.Url.Ascii

Hosts of URLs in ASCII are in small letters, and stay as they are when they are put in small letters again.

* `Text.lower_of_isAscii`: small letters of ASCII are made letter by letter;
* `Url.isSmall_bareHost`: the host that a text in ASCII names is in small letters of ASCII.
-/

namespace Userscript

namespace Text

def IsAscii (cs : List Char) : Prop := ∀ c ∈ cs, c.toNat < 128

/-- Characters of ASCII without capital letters. -/
def IsSmall (cs : List Char) : Prop := ∀ c ∈ cs, c.toNat < 128 ∧ c.toLower = c

theorem IsAscii.of_subset {cs ds : List Char} (h : IsAscii cs) (sub : ds ⊆ cs) : IsAscii ds :=
  fun c mem => h c (sub mem)

theorem IsSmall.isAscii {cs : List Char} (h : IsSmall cs) : IsAscii cs := fun c mem => (h c mem).1

theorem isAscii_of_all {cs : List Char} (h : cs.all (·.toNat < 128) = true) : IsAscii cs :=
  fun c mem => decide_eq_true_eq.mp (List.all_eq_true.mp h c mem)

theorem isAscii_append {cs ds : List Char} (hc : IsAscii cs) (hd : IsAscii ds) : IsAscii (cs ++ ds) := by
  intro c mem
  rcases List.mem_append.1 mem with mem | mem
  · exact hc c mem
  · exact hd c mem

/-- What holds of all characters of ASCII holds of each. -/
theorem of_ascii {P : Char → Prop} (h : ∀ n : Fin 128, P (Char.ofNat n)) {c : Char} (ascii : c.toNat < 128) : P c := by
  have one : P (Char.ofNat c.toNat) := h ⟨c.toNat, ascii⟩
  rwa [Char.ofNat_toNat] at one

/-- A letter in small is of ASCII, if it was, and stays. -/
theorem small_toLower {c : Char} (h : c.toNat < 128) : c.toLower.toNat < 128 ∧ c.toLower.toLower = c.toLower :=
  @of_ascii (fun c => c.toLower.toNat < 128 ∧ c.toLower.toLower = c.toLower) (by decide) c h

/-- Small letters of a text that begins in ASCII. -/
theorem lowerFrom_append {cs : List Char} (h : IsAscii cs) (before : List Char) (out : Array Char) (rest : List Char) :
    lowerFrom before out (cs ++ rest) =
      lowerFrom (cs.reverse ++ before) (out ++ (cs.map Char.toLower).toArray) rest := by
  induction cs generalizing before out with
  | nil => simp
  | cons c cs ih =>
    have first : c.toNat < 128 := h c List.mem_cons_self
    have notSigma : c ≠ 'Σ' := by
      rintro rfl
      exact absurd first (by decide)
    have low : lowerChar c = [c.toLower] := by rw [lowerChar, if_pos first]
    rw [List.cons_append, lowerFrom, if_neg notSigma, low, ih fun d mem => h d (List.mem_cons_of_mem c mem)]
    simp

theorem toList_lowerFrom {cs : List Char} (h : IsAscii cs) (before : List Char) (out : Array Char) :
    (lowerFrom before out cs).toList = out.toList ++ cs.map Char.toLower := by
  rw [← List.append_nil cs, lowerFrom_append h, lowerFrom, List.append_nil]
  simp

theorem lower_of_isAscii {s : String} (h : IsAscii s.toList) : (lower s).toList = s.toList.map Char.toLower := by
  rw [lower, String.toList_ofList, toList_lowerFrom h]
  rfl

theorem isSmall_lower {s : String} (h : IsAscii s.toList) : IsSmall (lower s).toList := by
  rw [lower_of_isAscii h]
  intro c mem
  obtain ⟨d, there, rfl⟩ := List.mem_map.1 mem
  exact small_toLower (h d there)

theorem lower_of_isSmall {s : String} (h : IsSmall s.toList) : lower s = s := by
  rw [← String.toList_inj, lower_of_isAscii h.isAscii, List.map_congr_left fun c mem => (h c mem).2]
  exact List.map_id _

end Text

namespace Url

open Text (IsAscii IsSmall)

theorem afterLast_subset (sep : Char) (cs : List Char) : afterLast sep cs ⊆ cs := by
  intro c mem
  rw [afterLast, List.mem_reverse] at mem
  exact List.mem_reverse.1 ((List.takeWhile_sublist _).subset mem)

theorem fst_partition_subset (sep : Char) (cs : List Char) : (partition sep cs).1 ⊆ cs :=
  (List.takeWhile_sublist _).subset

theorem snd_partition_subset (sep : Char) (cs : List Char) : (partition sep cs).2 ⊆ cs :=
  List.drop_subset _ cs

theorem snd_splitScheme_subset (cs : List Char) : (splitScheme cs).2 ⊆ cs := by
  simp only [splitScheme]
  split
  · next first rest dropped =>
    split
    · intro c mem
      have there : c ∈ cs.drop (cs.takeWhile (· ≠ ':')).length := by
        rw [dropped]
        exact List.mem_cons_of_mem first mem
      exact List.drop_subset _ cs there
    · exact List.Subset.refl cs
  · exact List.Subset.refl cs

theorem takeAuthority_subset (cs : List Char) : takeAuthority cs ⊆ cs := by
  unfold takeAuthority
  split
  · next rest =>
    intro c mem
    have there : c ∈ rest := (List.takeWhile_sublist _).subset mem
    exact List.mem_cons_of_mem _ (List.mem_cons_of_mem _ there)
  · exact List.nil_subset cs

theorem authority_subset {url : String} {parts : Parts} (h : split url = .ok parts) :
    parts.authority ⊆ url.toList := by
  rw [split] at h
  dsimp only at h
  split at h
  · cases h
  · cases h
    intro c mem
    have there := snd_splitScheme_subset _ (takeAuthority_subset _ mem)
    exact (List.mem_filter.1 there).1

theorem isAscii_hostOf {authority : List Char} (h : IsAscii authority) : IsAscii (hostOf authority) := by
  have place : IsAscii (afterLast '@' authority) := h.of_subset (afterLast_subset _ _)
  rw [hostOf]
  generalize found : (if (afterLast '@' authority).contains '[' then _ else _) = host
  have ofHost : IsAscii host := by
    rw [← found]
    split
    · exact place.of_subset (List.Subset.trans (fst_partition_subset _ _) (snd_partition_subset _ _))
    · exact place.of_subset (fst_partition_subset _ _)
  refine Text.isAscii_append ?_ (ofHost.of_subset (List.drop_subset _ _))
  refine (Text.isSmall_lower ?_).isAscii
  rw [String.toList_ofList]
  exact ofHost.of_subset (List.takeWhile_sublist _).subset

theorem dropSite_subset (host : String) : (dropSite host).toList ⊆ host.toList := by
  rw [dropSite]
  split
  · next rest cut =>
    rw [cut, String.toList_ofList]
    exact (List.sublist_append_right ['w', 'w', 'w', '.'] rest).subset
  · exact List.Subset.refl _

/-- The name under which the pages of a URL in ASCII are known is in small letters. -/
theorem isSmall_siteHost {url : String} (h : IsAscii url.toList) : IsSmall (siteHost url).toList := by
  rw [siteHost]
  split
  · intro c mem
    cases mem
  · next parts cut =>
    have ofHost : IsAscii (String.ofList (hostOf parts.authority)).toList := by
      rw [String.toList_ofList]
      exact isAscii_hostOf (h.of_subset (authority_subset cut))
    exact fun c mem => Text.isSmall_lower ofHost c (dropSite_subset _ mem)

/-- The host that a text in ASCII names is in small letters. -/
theorem isSmall_bareHost {text : String} (h : IsAscii text.toList) : IsSmall (bareHost text).toList := by
  refine isSmall_siteHost ?_
  split
  · exact h
  · rw [String.toList_append]
    exact Text.isAscii_append (Text.isAscii_of_all (by decide)) h

end Url
end Userscript
