import Mathlib.Data.List.TakeWhile
import Userscript.Proofs.Text.Pieces
import Userscript.Proofs.Url.Ascii

/-!
# Userscript.Proofs.Url.Address

The addresses of the pages of a host, that each names this host, and which of them have one origin.

The origin is the scheme and the whole authority in small letters, so it tells all that is in the authority apart: not
only host and port, but user information too.

* `IsHostName` is a name for hosts as they are compared, and `Address` an address in parts, of which `IsWeb` says that
  it is on the web, and `IsOf` that its host is the one of a name;
* `afterLast_append`, `fst_partition_append`, `splitScheme_append`, `takeAuthority_append`: each cut is made where the
  part ends, whatever the part before it or behind it holds;
* `Address.IsWeb.split_text`, `Address.IsWeb.hostOf_authority`: so the host is what stands between user information and
  port;
* `Address.IsOf.siteHost_text`, `Address.IsOf.isWeb_text`: the page is known under the name, and is a page of the web;
* `Address.SamePlace` is the same scheme, host and port, and `Address.account` user information as it counts;
* `Address.IsWeb.origin_text`: the origin of an address, part by part;
* `Address.IsWeb.origin_eq_iff`: two addresses have one origin if and only if they are of one place and have the same
  account.
-/

namespace Userscript

namespace Text

theorem prefix_lowerFrom (before : List Char) (out : Array Char) (cs : List Char) :
    out.toList <+: (lowerFrom before out cs).toList := by
  induction cs generalizing before out with
  | nil => exact List.prefix_rfl
  | cons c rest ih =>
    refine List.IsPrefix.trans ?_ (ih (c :: before) _)
    rw [Array.toList_appendList]
    exact List.prefix_append _ _

/-- What is at the beginning of a text in ASCII is there in small letters. -/
theorem prefix_lower {cs : List Char} (h : IsAscii cs) (rest : List Char) :
    cs.map Char.toLower <+: (lower (String.ofList (cs ++ rest))).toList := by
  have first := prefix_lowerFrom (cs.reverse ++ []) (#[] ++ (cs.map Char.toLower).toArray) rest
  rw [lower, String.toList_ofList, String.toList_ofList, lowerFrom_append h]
  simpa using first

theorem map_toLower_map {cs : List Char} (h : IsAscii cs) :
    (cs.map Char.toLower).map Char.toLower = cs.map Char.toLower := by
  rw [List.map_map]
  exact List.map_congr_left fun c mem => (small_toLower (h c mem)).2

end Text

namespace Url

open Text (IsAscii IsSmall)

/-! ## Names and addresses -/

def isNameChar (c : Char) : Bool := c.isLower || c.isDigit || c = '.' || c = '-'

/-- A name for hosts as they are compared: in small letters and without a leading `www.`. -/
structure IsHostName (h : String) : Prop where
  named : h ≠ ""
  chars : ∀ c ∈ h.toList, isNameChar c = true
  bare : ¬ "www.".toList <+: h.toList

/-- An address in parts as written: the scheme up to `://`, user information with its `@`, a leading `www.`, the host,
a port with its colon, and what follows. All but the scheme and the host may be empty. -/
structure Address where
  scheme : List Char
  user : List Char := []
  site : List Char := []
  host : List Char
  port : List Char := []
  tail : List Char := []

/-- What user information may not hold: what ends it, and brackets. -/
def isSign (c : Char) : Bool := endsAuthority c || c = '[' || c = ']'

namespace Address

def text (a : Address) : String :=
  String.ofList (a.scheme ++ (':' :: '/' :: '/' :: (a.user ++ (a.site ++ (a.host ++ (a.port ++ a.tail))))))

/-- An address on the web whose host has the name, in any letter case. -/
structure IsOf (a : Address) (h : String) : Prop where
  scheme : a.scheme.map Char.toLower = "http".toList ∨ a.scheme.map Char.toLower = "https".toList
  user : a.user = [] ∨ ∃ info, a.user = info ++ ['@'] ∧ IsAscii info ∧ ∀ c ∈ info, isSign c = false
  site : a.site = [] ∨ a.site.map Char.toLower = "www.".toList
  host : a.host.map Char.toLower = h.toList
  port : a.port = [] ∨ ∃ digits, a.port = ':' :: digits ∧ ∀ c ∈ digits, c.isDigit = true
  tail : ∀ c ∈ a.tail.head?, endsAuthority c = true

end Address

/-! ## Characters -/

/-- A character that is in names of hosts, in any letter case. -/
def isHostChar (c : Char) : Bool := c.toNat < 128 && isNameChar c.toLower

/-- A character at which no address is cut, and which is not dropped. -/
def isInner (c : Char) : Bool := !isSign c && !isDropped c && c ≠ '@' && c ≠ ':' && c ≠ '%'

theorem toNat_lt_of_isNameChar {c : Char} (h : isNameChar c = true) : c.toNat < 128 := by
  simp only [isNameChar, Bool.or_eq_true, decide_eq_true_eq] at h
  rcases h with ((lower | digit) | rfl) | rfl
  · have low : c.toNat ≤ 122 := of_decide_eq_true (Bool.and_eq_true_iff.mp lower).2
    omega
  · have low : c.toNat ≤ 57 := of_decide_eq_true (Bool.and_eq_true_iff.mp digit).2
    omega
  · decide
  · decide

theorem isHostChar_of_toLower {c : Char} (h : isNameChar c.toLower = true) : isHostChar c = true := by
  have ascii : c.toNat < 128 := by
    refine Nat.lt_of_not_le fun high => ?_
    have same : c.toLower = c := dif_neg fun capital => by
      have : c.toNat ≤ 90 := capital.2
      omega
    rw [same] at h
    exact Nat.not_le_of_lt (toNat_lt_of_isNameChar h) high
  rw [isHostChar, decide_eq_true ascii, h, Bool.and_self]

theorem isHostChar_of_isDigit {c : Char} (h : c.isDigit = true) : isHostChar c = true := by
  have ascii : c.toNat < 128 := toNat_lt_of_isNameChar (by rw [isNameChar, h, Bool.or_true]; rfl)
  exact @Text.of_ascii (fun c => c.isDigit = true → isHostChar c = true) (by decide) c ascii h

theorem toNat_lt_of_isHostChar {c : Char} (h : isHostChar c = true) : c.toNat < 128 := by
  rw [isHostChar, Bool.and_eq_true, decide_eq_true_eq] at h
  exact h.1

theorem isInner_of_isHostChar {c : Char} (h : isHostChar c = true) : isInner c = true :=
  @Text.of_ascii (fun c => isHostChar c = true → isInner c = true) (by decide) c (toNat_lt_of_isHostChar h) h

theorem isHostChar_of_map {cs ds : List Char} (h : cs.map Char.toLower = ds)
    (chars : ∀ d ∈ ds, isNameChar d = true) : ∀ c ∈ cs, isHostChar c = true :=
  fun _ mem => isHostChar_of_toLower (chars _ (h ▸ List.mem_map_of_mem mem))

/-! ## Cuts -/

section Cuts

variable {front rest : List Char} {c : Char}

theorem decide_ne_of_notMem (h : c ∉ front) : ∀ d ∈ front, decide (d ≠ c) = true := by
  intro d mem
  rw [decide_eq_true_eq]
  rintro rfl
  exact h mem

theorem afterLast_of_notMem (h : c ∉ rest) : afterLast c rest = rest := by
  have other := decide_ne_of_notMem (mt List.mem_reverse.mp h)
  rw [afterLast, List.takeWhile_eq_self_iff.mpr other, List.reverse_reverse]

theorem afterLast_append (h : c ∉ rest) : afterLast c (front ++ c :: rest) = rest := by
  have other := decide_ne_of_notMem (mt List.mem_reverse.mp h)
  have stop : ∀ d ∈ (c :: front.reverse).head?, decide (d ≠ c) = false := by simp
  rw [afterLast, List.reverse_append, List.reverse_cons, List.append_assoc, List.singleton_append,
    Text.takeWhile_append other stop, List.reverse_reverse]

theorem fst_partition_append (h : c ∉ front) (next : ∀ d ∈ rest.head?, d = c) :
    (partition c (front ++ rest)).1 = front := by
  refine Text.takeWhile_append (decide_ne_of_notMem h) fun d here => ?_
  rw [next d here]
  simp

theorem splitScheme_append (letters : ∀ c ∈ front, c.toNat < 128 ∧ c.isAlpha = true) (some : front ≠ []) :
    splitScheme (front ++ ':' :: rest) = (front.map Char.toLower, rest) := by
  have cut : (front ++ ':' :: rest).takeWhile (· ≠ ':') = front := by
    have colon : ':' ∉ front := fun mem => absurd (letters ':' mem).2 (by decide)
    refine Text.takeWhile_append (decide_ne_of_notMem colon) fun d here => ?_
    rw [← Option.some.inj here]
    rfl
  have first : (front.head?.any fun c => c.toNat < 128 && c.isAlpha) = true := by
    obtain ⟨f, more, rfl⟩ := List.exists_cons_of_ne_nil some
    simpa using letters f List.mem_cons_self
  have all : front.all isSchemeChar = true := by
    rw [List.all_eq_true]
    intro d mem
    obtain ⟨ascii, letter⟩ := letters d mem
    simp [isSchemeChar, ascii, Char.isAlphanum, letter]
  rw [splitScheme, cut, List.drop_left, first, all]
  rfl

theorem takeAuthority_append (inner : ∀ c ∈ front, endsAuthority c = false)
    (stop : ∀ c ∈ rest.head?, endsAuthority c = true) : takeAuthority ('/' :: '/' :: (front ++ rest)) = front := by
  refine Text.takeWhile_append (fun d mem => ?_) fun d here => ?_
  · rw [inner d mem]
    rfl
  · rw [stop d here]
    rfl

theorem bracketFault?_eq_none (opened : '[' ∉ front) (closed : ']' ∉ front) : bracketFault? front = none := by
  simp [bracketFault?, opened, closed]

theorem lettersFault?_eq_none (h : IsAscii front) : lettersFault? front = none := by
  have all : front.all (·.toNat < 128) = true := by
    rw [List.all_eq_true]
    exact fun c mem => decide_eq_true (h c mem)
  rw [lettersFault?, if_pos all]

end Cuts

/-! ## The parts of an address -/

namespace Address

/-- The part between the scheme and what follows, without what is dropped of it. -/
def authority (a : Address) : List Char :=
  a.user.filter (fun c => !isDropped c) ++ ((a.site ++ a.host) ++ a.port)

/-- An address on the web, whatever its host is called. -/
structure IsWeb (a : Address) : Prop where
  scheme : a.scheme.map Char.toLower = "http".toList ∨ a.scheme.map Char.toLower = "https".toList
  user : a.user = [] ∨ ∃ info, a.user = info ++ ['@'] ∧ IsAscii info ∧ ∀ c ∈ info, isSign c = false
  host : ∀ c ∈ a.site ++ a.host, isHostChar c = true
  port : a.port = [] ∨ ∃ digits, a.port = ':' :: digits ∧ ∀ c ∈ digits, c.isDigit = true
  tail : ∀ c ∈ a.tail.head?, endsAuthority c = true

variable {a : Address}

theorem letters_of_web (web : a.scheme.map Char.toLower = "http".toList ∨ a.scheme.map Char.toLower = "https".toList) :
    ∀ c ∈ a.scheme, c.toNat < 128 ∧ c.isAlpha = true := by
  have lower : (a.scheme.map Char.toLower).all Char.isLower = true := by
    rcases web with same | same <;> rw [same] <;> decide
  intro c mem
  have low : c.toLower.isLower = true := List.all_eq_true.mp lower _ (List.mem_map_of_mem mem)
  have ascii : c.toNat < 128 := by
    refine toNat_lt_of_isHostChar (isHostChar_of_toLower ?_)
    rw [isNameChar, low]
    rfl
  exact ⟨ascii, @Text.of_ascii (fun c => c.toLower.isLower = true → c.isAlpha = true) (by decide) c ascii low⟩

namespace IsWeb

theorem letters (web : a.IsWeb) : ∀ c ∈ a.scheme, c.toNat < 128 ∧ c.isAlpha = true := letters_of_web web.scheme

theorem scheme_ne_nil (web : a.IsWeb) : a.scheme ≠ [] := by
  intro none
  rcases web.scheme with same | same <;> rw [none] at same <;> exact absurd same (by decide)

theorem port_chars (web : a.IsWeb) : ∀ c ∈ a.port, isHostChar c = true ∨ c = ':' := by
  rcases web.port with none | ⟨digits, same, all⟩
  · rw [none]
    exact List.forall_mem_nil _
  · rw [same, List.forall_mem_cons]
    exact ⟨.inr rfl, fun c mem => .inl (isHostChar_of_isDigit (all c mem))⟩

theorem user_chars (web : a.IsWeb) : ∀ c ∈ a.user, c.toNat < 128 ∧ isSign c = false := by
  rcases web.user with none | ⟨info, same, ascii, plain⟩
  · rw [none]
    exact List.forall_mem_nil _
  · rw [same, List.forall_mem_append, List.forall_mem_singleton]
    exact ⟨fun c mem => ⟨ascii c mem, plain c mem⟩, by decide⟩

theorem place_chars (web : a.IsWeb) :
    ∀ c ∈ (a.site ++ a.host) ++ a.port, c.toNat < 128 ∧ isSign c = false ∧ isDropped c = false ∧ c ≠ '@' := by
  have ofChar {c : Char} (char : isHostChar c = true) :
      c.toNat < 128 ∧ isSign c = false ∧ isDropped c = false ∧ c ≠ '@' := by
    have inner := isInner_of_isHostChar char
    simp only [isInner, Bool.and_eq_true, Bool.not_eq_true', decide_eq_true_eq] at inner
    obtain ⟨⟨⟨⟨sign, dropped⟩, sep⟩, -⟩, -⟩ := inner
    exact ⟨toNat_lt_of_isHostChar char, sign, dropped, sep⟩
  rw [List.forall_mem_append]
  refine ⟨fun c mem => ofChar (web.host c mem), fun c mem => ?_⟩
  rcases web.port_chars c mem with char | rfl
  · exact ofChar char
  · decide

theorem authority_chars (web : a.IsWeb) : ∀ c ∈ a.authority, c.toNat < 128 ∧ isSign c = false := by
  rw [authority, List.forall_mem_append]
  refine ⟨fun c mem => web.user_chars c (List.mem_filter.mp mem).1, fun c mem => ?_⟩
  obtain ⟨ascii, sign, -⟩ := web.place_chars c mem
  exact ⟨ascii, sign⟩

/-- What is dropped is dropped of user information and of what follows the authority. -/
theorem filter_text (web : a.IsWeb) :
    a.text.toList.filter (fun c => !isDropped c) = a.scheme ++ (':' :: '/' :: '/' ::
      (a.authority ++ a.tail.filter fun c => !isDropped c)) := by
  have scheme : a.scheme.filter (fun c => !isDropped c) = a.scheme := by
    refine List.filter_eq_self.mpr fun c mem => ?_
    obtain ⟨ascii, letter⟩ := web.letters c mem
    exact @Text.of_ascii (fun c => c.isAlpha = true → (!isDropped c) = true) (by decide) c ascii letter
  have place : ((a.site ++ a.host) ++ a.port).filter (fun c => !isDropped c) = (a.site ++ a.host) ++ a.port := by
    refine List.filter_eq_self.mpr fun c mem => ?_
    rw [(web.place_chars c mem).2.2.1]
    rfl
  have whole : a.text.toList =
      a.scheme ++ (':' :: '/' :: '/' :: (a.user ++ (((a.site ++ a.host) ++ a.port) ++ a.tail))) := by
    rw [text, String.toList_ofList]
    simp only [List.append_assoc]
  rw [whole, List.filter_append, scheme, authority, List.append_assoc, ← place]
  simp [isDropped]

theorem head_tail (web : a.IsWeb) : ∀ c ∈ (a.tail.filter fun c => !isDropped c).head?, endsAuthority c = true := by
  cases tail : a.tail with
  | nil => exact nofun
  | cons t more =>
    have ends : endsAuthority t = true := web.tail t (by rw [tail]; rfl)
    have kept : (!isDropped t) = true := by
      simp only [endsAuthority, Bool.or_eq_true, decide_eq_true_eq] at ends
      rcases ends with (rfl | rfl) | rfl <;> decide
    intro c here
    rw [List.filter_cons, if_pos kept] at here
    exact Option.some.inj here ▸ ends

theorem isAscii_authority (web : a.IsWeb) : IsAscii a.authority := fun c mem => (web.authority_chars c mem).1

theorem split_text (web : a.IsWeb) : split a.text = .ok ⟨a.scheme.map Char.toLower, a.authority⟩ := by
  have signs (c : Char) (mem : c ∈ a.authority) : endsAuthority c = false ∧ c ≠ '[' ∧ c ≠ ']' := by
    have sign := (web.authority_chars c mem).2
    simp only [isSign, Bool.or_eq_false_iff, decide_eq_false_iff_not] at sign
    exact ⟨sign.1.1, sign.1.2, sign.2⟩
  have brackets : bracketFault? a.authority = none :=
    bracketFault?_eq_none (fun mem => (signs '[' mem).2.1 rfl) (fun mem => (signs ']' mem).2.2 rfl)
  rw [split, web.filter_text, splitScheme_append web.letters web.scheme_ne_nil]
  dsimp only
  rw [takeAuthority_append (fun c mem => (signs c mem).1) web.head_tail, brackets,
    lettersFault?_eq_none web.isAscii_authority]
  rfl

/-- User information does not count, whatever it holds. -/
theorem afterLast_authority (web : a.IsWeb) : afterLast '@' a.authority = (a.site ++ a.host) ++ a.port := by
  have sep : '@' ∉ (a.site ++ a.host) ++ a.port := fun mem => (web.place_chars '@' mem).2.2.2 rfl
  rw [authority]
  rcases web.user with none | ⟨info, same, -⟩
  · rw [none]
    exact afterLast_of_notMem sep
  · rw [same, List.filter_append, List.append_assoc]
    exact afterLast_append sep

theorem host_inner (web : a.IsWeb) {c : Char} (mem : c ∈ a.site ++ a.host) : c ≠ ':' ∧ c ≠ '%' := by
  have inner := isInner_of_isHostChar (web.host c mem)
  simp only [isInner, Bool.and_eq_true, decide_eq_true_eq] at inner
  exact ⟨inner.1.2, inner.2⟩

theorem fst_partition_place (web : a.IsWeb) :
    (partition ':' ((a.site ++ a.host) ++ a.port)).1 = a.site ++ a.host := by
  refine fst_partition_append (fun mem => (web.host_inner mem).1 rfl) fun c here => ?_
  rcases web.port with none | ⟨digits, same, -⟩
  · rw [none] at here
    cases here
  · rw [same] at here
    exact (Option.some.inj here).symm

theorem hostOf_authority (web : a.IsWeb) : hostOf a.authority = (a.site ++ a.host).map Char.toLower := by
  have plain : ((a.site ++ a.host) ++ a.port).contains '[' = false := by
    rw [List.contains_eq_mem, decide_eq_false_iff_not]
    exact fun mem => absurd (web.place_chars '[' mem).2.1 (by decide)
  have zone : (a.site ++ a.host).takeWhile (· ≠ '%') = a.site ++ a.host :=
    List.takeWhile_eq_self_iff.mpr (decide_ne_of_notMem fun mem => (web.host_inner mem).2 rfl)
  have ascii : IsAscii (String.ofList (a.site ++ a.host)).toList := by
    rw [String.toList_ofList]
    exact fun c mem => toNat_lt_of_isHostChar (web.host c mem)
  rw [hostOf, web.afterLast_authority, plain, if_neg Bool.false_ne_true, web.fst_partition_place, zone,
    List.drop_length, List.append_nil, Text.lower_of_isAscii ascii, String.toList_ofList]

end IsWeb

/-! ## Addresses of a host -/

namespace IsOf

variable {h : String}

theorem isWeb (named : IsHostName h) (of : a.IsOf h) : a.IsWeb where
  scheme := of.scheme
  user := of.user
  host := by
    rw [List.forall_mem_append]
    constructor
    · rcases of.site with none | same
      · rw [none]
        exact List.forall_mem_nil _
      · exact isHostChar_of_map same (List.all_eq_true.mp (by decide))
    · exact isHostChar_of_map of.host named.chars
  port := of.port
  tail := of.tail

theorem siteHost_text (named : IsHostName h) (of : a.IsOf h) : siteHost a.text = h := by
  have web := of.isWeb named
  have low : (a.site ++ a.host).map Char.toLower = h.toList ∨
      (a.site ++ a.host).map Char.toLower = 'w' :: 'w' :: 'w' :: '.' :: h.toList := by
    rw [List.map_append, of.host]
    rcases of.site with none | same
    · rw [none]
      exact .inl rfl
    · rw [same]
      exact .inr rfl
  have small : IsSmall (String.ofList ((a.site ++ a.host).map Char.toLower)).toList := by
    rw [String.toList_ofList]
    intro c mem
    obtain ⟨d, there, rfl⟩ := List.mem_map.mp mem
    exact Text.small_toLower (toNat_lt_of_isHostChar (web.host d there))
  rw [siteHost, web.split_text]
  dsimp only
  rw [web.hostOf_authority, Text.lower_of_isSmall small]
  -- One `www.` is dropped, and the name does not begin with another.
  rcases low with bare | site
  · rw [bare, String.ofList_toList, dropSite]
    split
    · next rest cut => exact absurd ⟨rest, cut.symm⟩ named.bare
    · rfl
  · rw [site, dropSite, String.toList_ofList]
    exact String.ofList_toList

theorem isWeb_text (of : a.IsOf h) : Url.isWeb a.text = true := by
  have ascii : IsAscii (a.scheme ++ "://".toList) :=
    Text.isAscii_append (fun c mem => (letters_of_web of.scheme c mem).1) (Text.isAscii_of_all (by decide))
  let rest := a.user ++ (a.site ++ (a.host ++ (a.port ++ a.tail)))
  have first := Text.prefix_lower ascii rest
  have whole : a.text = String.ofList ((a.scheme ++ "://".toList) ++ rest) := by
    rw [text, List.append_assoc]
    rfl
  rw [Url.isWeb, whole, Bool.or_eq_true, String.startsWith_string_iff, String.startsWith_string_iff]
  rw [List.map_append] at first
  refine of.scheme.imp (fun same => ?_) fun same => ?_
  · rw [same] at first
    exact first
  · rw [same] at first
    exact first

end IsOf

end Address

/-! ## Origins -/

namespace Address

/-- The name of the host in small letters, to which a leading `www.` belongs. -/
def name (a : Address) : List Char := (a.site ++ a.host).map Char.toLower

/-- Addresses with the same scheme and host, letter case apart, and the same port, or without one. -/
structure SamePlace (a b : Address) : Prop where
  scheme : a.scheme.map Char.toLower = b.scheme.map Char.toLower
  name : a.name = b.name
  port : a.port = b.port

/-- User information as it counts for the origin: in small letters, and without what is dropped of URLs. -/
def account (a : Address) : List Char := (a.user.filter fun c => !isDropped c).map Char.toLower

namespace IsWeb

variable {a b : Address}

theorem map_toLower_port (web : a.IsWeb) : a.port.map Char.toLower = a.port := by
  have digit {c : Char} (h : c.isDigit = true) : c.toLower = c :=
    @Text.of_ascii (fun c => c.isDigit = true → c.toLower = c) (by decide) c
      (toNat_lt_of_isHostChar (isHostChar_of_isDigit h)) h
  rcases web.port with none | ⟨digits, same, all⟩
  · rw [none]
    rfl
  · rw [same, List.map_cons, List.map_congr_left fun c mem => digit (all c mem), List.map_id']
    rfl

theorem map_toLower_authority (web : a.IsWeb) :
    a.authority.map Char.toLower = a.account ++ (a.name ++ a.port) := by
  have place : ((a.site ++ a.host) ++ a.port).map Char.toLower = a.name ++ a.port := by
    rw [List.map_append, web.map_toLower_port, name]
  rw [authority, List.map_append, place, account]

theorem origin_text (web : a.IsWeb) :
    origin a.text = .ok (String.ofList (a.scheme.map Char.toLower ++ (':' :: '/' :: '/' ::
      (a.account ++ (a.name ++ a.port))))) := by
  have scheme : IsAscii a.scheme := fun c mem => (web.letters c mem).1
  have small : IsAscii (a.scheme.map Char.toLower) := by
    intro c mem
    obtain ⟨d, there, rfl⟩ := List.mem_map.mp mem
    exact (Text.small_toLower (scheme d there)).1
  have ascii : IsAscii (String.ofList (a.scheme.map Char.toLower) ++ "://" ++ String.ofList a.authority).toList := by
    simp only [String.toList_append, String.toList_ofList]
    exact Text.isAscii_append (Text.isAscii_append small (Text.isAscii_of_all (by decide))) web.isAscii_authority
  rw [origin, web.split_text]
  refine congrArg Except.ok (String.toList_inj.mp ?_)
  rw [Text.lower_of_isAscii ascii]
  simp only [String.toList_append, String.toList_ofList, List.map_append, List.append_assoc]
  rw [Text.map_toLower_map scheme, web.map_toLower_authority]
  rfl

/-! Where an origin is cut. -/

theorem colon_notMem_scheme (web : a.IsWeb) : ':' ∉ a.scheme.map Char.toLower := by
  rcases web.scheme with same | same <;> rw [same] <;> decide

theorem name_small (web : a.IsWeb) : ∀ c ∈ a.name, isNameChar c = true := by
  intro c mem
  obtain ⟨d, there, rfl⟩ := List.mem_map.mp mem
  exact (Bool.and_eq_true_iff.mp (web.host d there)).2

theorem colon_notMem_name (web : a.IsWeb) : ':' ∉ a.name :=
  fun mem => absurd (web.name_small ':' mem) (by decide)

theorem head_port (web : a.IsWeb) : ∀ c ∈ a.port.head?, c = ':' := by
  rcases web.port with none | ⟨digits, same, -⟩
  · rw [none]
    exact nofun
  · rw [same]
    exact fun c here => (Option.some.inj here).symm

theorem sep_notMem_place (web : a.IsWeb) : '@' ∉ a.name ++ a.port := by
  rw [List.mem_append, not_or]
  constructor
  · exact fun mem => absurd (web.name_small '@' mem) (by decide)
  · exact fun mem => (web.place_chars '@' (List.mem_append_right _ mem)).2.2.2 rfl

/-- An account that is not empty ends in its `@`. -/
theorem getLast_account (web : a.IsWeb) : ∀ c ∈ a.account.reverse.head?, c = '@' := by
  rw [account]
  rcases web.user with none | ⟨info, same, -⟩
  · rw [none]
    exact nofun
  · rw [same, List.filter_append, List.map_append, List.reverse_append]
    exact fun c here => (Option.some.inj here).symm

/-- Authorities in small letters are cut in one way: at the last `@`, and at the first colon behind it. -/
theorem authority_inj (webA : a.IsWeb) (webB : b.IsWeb)
    (same : a.account ++ (a.name ++ a.port) = b.account ++ (b.name ++ b.port)) :
    a.account = b.account ∧ a.name = b.name ∧ a.port = b.port := by
  have mirrored : (a.name ++ a.port).reverse ++ a.account.reverse = (b.name ++ b.port).reverse ++ b.account.reverse := by
    rw [← List.reverse_append, ← List.reverse_append, same]
  obtain ⟨places, accounts⟩ := Text.cut_unique (mt List.mem_reverse.mp webA.sep_notMem_place)
    (mt List.mem_reverse.mp webB.sep_notMem_place) webA.getLast_account webB.getLast_account mirrored
  obtain ⟨hosts, ports⟩ := Text.cut_unique webA.colon_notMem_name webB.colon_notMem_name webA.head_port webB.head_port
    (List.reverse_inj.mp places)
  exact ⟨List.reverse_inj.mp accounts, hosts, ports⟩

/-- Two addresses have one origin if and only if they are of one place and have the same account. -/
theorem origin_eq_iff (webA : a.IsWeb) (webB : b.IsWeb) :
    origin a.text = origin b.text ↔ a.SamePlace b ∧ a.account = b.account := by
  rw [webA.origin_text, webB.origin_text]
  constructor
  · intro same
    have colon (rest : List Char) : ∀ c ∈ (':' :: rest).head?, c = ':' := fun c here => (Option.some.inj here).symm
    obtain ⟨schemes, rests⟩ := Text.cut_unique webA.colon_notMem_scheme webB.colon_notMem_scheme (colon _) (colon _)
      (String.ofList_injective (Except.ok.inj same))
    simp only [List.cons.injEq, true_and] at rests
    obtain ⟨accounts, hosts, ports⟩ := authority_inj webA webB rests
    exact ⟨⟨schemes, hosts, ports⟩, accounts⟩
  · rintro ⟨place, accounts⟩
    rw [place.scheme, place.name, place.port, accounts]

end IsWeb

end Address

end Url
end Userscript
