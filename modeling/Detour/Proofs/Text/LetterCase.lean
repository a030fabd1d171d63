import Detour.Proofs.Text.Trimmed
import Detour.Text.Fields
import Detour.Text.Hex

/-!
# Letter case

Only the letters `A` to `Z` have another case. So texts that differ in the case of their letters
have the same white space, the same marks and the same hexadecimal digits in the same places.
-/

namespace Detour.Text

/-- The capital letter in a place of the alphabet. -/
def capital (place : Fin 26) : Char :=
  Char.ofNat ('A'.toNat + place.val)

theorem toLower_cases (c : Char) : c.toLower = c ∨ ∃ place, c = capital place := by
  by_cases isCapital : c.val ≥ 'A'.val ∧ c.val ≤ 'Z'.val
  · right
    obtain ⟨low, high⟩ := isCapital
    have low' : 65 ≤ c.toNat := low
    have high' : c.toNat ≤ 90 := high
    refine ⟨⟨c.toNat - 65, by omega⟩, ?_⟩
    have code : 'A'.toNat + (c.toNat - 65) = c.toNat := by
      change 65 + (c.toNat - 65) = c.toNat
      omega
    rw [capital, code, Char.ofNat_toNat]
  · left
    exact dif_neg isCapital

/-- What cannot tell a capital letter from its small one cannot tell any character from its small
one. -/
theorem eq_of_toLower {α : Type} (view : Char → α)
    (capitals : ∀ place, view (capital place).toLower = view (capital place)) (c : Char) :
    view c.toLower = view c := by
  rcases toLower_cases c with same | ⟨place, isCapital⟩
  · rw [same]
  · rw [isCapital]
    exact capitals place

theorem isBlank_toLower (c : Char) : isBlank c.toLower = isBlank c :=
  eq_of_toLower isBlank (by decide) c

theorem digitValue?_toLower (c : Char) : Hex.digitValue? c.toLower = Hex.digitValue? c :=
  eq_of_toLower Hex.digitValue? (by decide) c

theorem isEquals_toLower (c : Char) : (c.toLower == '=') = (c == '=') :=
  eq_of_toLower (· == '=') (by decide) c

/-! ## Texts -/

variable {left right : List Char}

theorem equalIgnoringCase_iff :
    equalIgnoringCase left right = true ↔ left.map Char.toLower = right.map Char.toLower := by
  rw [equalIgnoringCase, beq_iff_eq]

/-- A text may be compared in other letters. -/
theorem equalIgnoringCase_congr (same : equalIgnoringCase left right = true) (text : List Char) :
    equalIgnoringCase left text = equalIgnoringCase right text := by
  rw [equalIgnoringCase, equalIgnoringCase, equalIgnoringCase_iff.mp same]

theorem trim_map_toLower (text : List Char) :
    trim (text.map Char.toLower) = (trim text).map Char.toLower := by
  have sameBlanks : isBlank ∘ Char.toLower = isBlank := funext isBlank_toLower
  have atLeft (text : List Char) :
      trimLeft (text.map Char.toLower) = (trimLeft text).map Char.toLower := by
    unfold trimLeft
    rw [List.dropWhile_map, sameBlanks]
  change (trimLeft (trimLeft _).reverse).reverse = ((trimLeft (trimLeft _).reverse).reverse).map _
  rw [atLeft, ← List.map_reverse, atLeft, List.map_reverse]

theorem equalIgnoringCase_trim (same : equalIgnoringCase left right = true) :
    equalIgnoringCase (trim left) (trim right) = true := by
  rw [equalIgnoringCase_iff] at same ⊢
  rw [← trim_map_toLower, ← trim_map_toLower, same]

theorem equals_mem_iff (same : equalIgnoringCase left right = true) : '=' ∈ left ↔ '=' ∈ right := by
  have lowered (text : List Char) : '=' ∈ text ↔ '=' ∈ text.map Char.toLower := by
    have found (c : Char) : c.toLower = '=' ↔ c = '=' := by
      rw [← beq_iff_eq, isEquals_toLower, beq_iff_eq]
    simp [found]
  rw [lowered left, lowered right, equalIgnoringCase_iff.mp same]

theorem decode?_map_toLower (text : List Char) :
    Hex.decode? (text.map Char.toLower) = Hex.decode? text := by
  match text with
  | [] => rfl
  | [_] => rfl
  | high :: low :: rest =>
    rw [List.map_cons, List.map_cons, Hex.decode?, Hex.decode?, digitValue?_toLower,
      digitValue?_toLower, decode?_map_toLower rest]

theorem decode?_eq_of_equalIgnoringCase (same : equalIgnoringCase left right = true) :
    Hex.decode? left = Hex.decode? right := by
  rw [← decode?_map_toLower left, equalIgnoringCase_iff.mp same, decode?_map_toLower]

end Detour.Text
