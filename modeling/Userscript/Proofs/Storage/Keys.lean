import Userscript.Proofs.Json.Numeral
import Userscript.Proofs.Text.Pieces
import Userscript.Storage.Scoped

/-!
# Userscript.Proofs.Storage.Keys

Keys of different scripts, and different keys of one script, never meet.

The text of an id holds no low line, so the first low line behind what all keys begin with ends it, whatever
the key itself is made of.
-/

namespace Userscript.Storage

theorem display_ownerOf (id : Option Int) :
    (ownerOf id).display.toList = match id with
      | none => ['N', 'o', 'n', 'e']
      | some n => (Json.Numeral.ofInt n).chars := by
  cases id with
  | none => rfl
  | some n => exact (Json.Numeral.chars_ofInt n).symm

/-- The texts of integers differ, since they are read back. -/
theorem chars_ofInt_injective {i j : Int}
    (h : (Json.Numeral.ofInt i).chars = (Json.Numeral.ofInt j).chars) : i = j := by
  have hread (n : Int) : Json.readNumber? false ((Json.Numeral.ofInt n).chars ++ []) = some (.ok (.int n, [])) := by
    rw [Json.readNumber?_chars (Json.Numeral.wellFormed_ofInt n) (by simp [Json.Ends]),
      Json.Numeral.value_ofInt (by simp)]
    rfl
  have hi := hread i
  rw [h, hread j] at hi
  cases hi
  rfl

theorem low_line_not_mem_owner (id : Option Int) : '_' ∉ (ownerOf id).display.toList := by
  rw [display_ownerOf]
  cases id with
  | none => decide
  | some n =>
    have hdigits : '_' ∉ Nat.toDigits 10 n.natAbs := fun hmem =>
      absurd (Nat.isDigit_of_mem_toDigits (by omega) (by omega) hmem) (by decide)
    dsimp only
    rw [Json.Numeral.chars_ofInt_eq_append]
    split <;> simp [hdigits]

theorem ownerOf_display_injective {i j : Option Int}
    (h : (ownerOf i).display.toList = (ownerOf j).display.toList) : i = j := by
  rw [display_ownerOf, display_ownerOf] at h
  have hnone (n : Int) : (Json.Numeral.ofInt n).chars ≠ ['N', 'o', 'n', 'e'] := by
    intro hn
    obtain ⟨c, cs, hchars, hc⟩ := Json.chars_eq_cons (Json.Numeral.wellFormed_ofInt n)
    rw [hn] at hchars
    obtain ⟨rfl, -⟩ := List.cons.inj hchars
    simp at hc
  cases i with
  | none =>
    cases j with
    | none => rfl
    | some n => exact absurd h.symm (hnone n)
  | some m =>
    cases j with
    | none => exact absurd h (hnone m)
    | some n => rw [chars_ofInt_injective h]

/-- The key under which a script keeps the value of a text. -/
def keyText (keyStart : String) (id : Option Int) (text : String) : String :=
  keyStart ++ (ownerOf id).display ++ "_" ++ text

theorem keyText_injective {keyStart text other : String} {i j : Option Int}
    (h : keyText keyStart i text = keyText keyStart j other) : i = j ∧ text = other := by
  have hchars := congrArg String.toList h
  simp only [keyText, String.toList_append, List.append_assoc] at hchars
  have low_line (t : String) : ∀ c ∈ ("_".toList ++ t.toList).head?, c = '_' :=
    fun c here => (Option.some.inj here).symm
  obtain ⟨howner, htext⟩ := Text.cut_unique (low_line_not_mem_owner i) (low_line_not_mem_owner j) (low_line text)
    (low_line other) (List.append_cancel_left hchars)
  exact ⟨ownerOf_display_injective howner, String.toList_inj.1 (List.append_cancel_left htext)⟩

end Userscript.Storage
