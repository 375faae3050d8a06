import Mathlib
import NostrEntities.Text.Case

/-!
# Lower case forms

The lower case form of a text has no upper case letter, is its own lower case
form, and is never of mixed case. A text in a single case is determined by its
lower case form up to the choice of that case.
-/

namespace NostrEntities.Text

theorem isUpper_iff_toNat (character : Char) :
    character.isUpper = true ↔ 65 ≤ character.toNat ∧ character.toNat ≤ 90 := by
  simp [Char.isUpper, UInt32.le_iff_toNat_le]

/-- The lower case form of a letter stands 32 places after it. -/
theorem toNat_toLower (character : Char) :
    character.toLower.toNat =
      if character.isUpper then character.toNat + 32 else character.toNat := by
  cases upper : character.isUpper with
  | false => rw [Char.toLower_eq_of_not_isUpper (by simp [upper])]; simp
  | true =>
      have range := (isUpper_iff_toNat character).mp upper
      rw [Char.toLower_eq_of_isUpper upper, Char.toNat_ofNat, if_pos]
      · simp
      · left; omega

@[simp] theorem lowered_append (first second : List Char) :
    lowered (first ++ second) = lowered first ++ lowered second := by
  simp [lowered]

@[simp] theorem lowered_cons (character : Char) (rest : List Char) :
    lowered (character :: rest) = character.toLower :: lowered rest := by
  simp [lowered]

@[simp] theorem lowered_nil : lowered [] = [] := rfl

@[simp] theorem lowered_eq_nil_iff {characters : List Char} :
    lowered characters = [] ↔ characters = [] := by
  simp [lowered]

theorem lowered_eq_self {characters : List Char}
    (noUpper : ∀ character ∈ characters, character.isUpper = false) :
    lowered characters = characters := by
  have fixed : ∀ character ∈ characters, character.toLower = id character := by
    intro character member
    exact Char.toLower_eq_of_not_isUpper (by simp [noUpper character member])
  rw [lowered, List.map_congr_left fixed, List.map_id]

theorem lowered_map_toUpper (characters : List Char) :
    lowered (characters.map Char.toUpper) = lowered characters := by
  rw [lowered, List.map_map]
  apply List.map_congr_left
  intro character _
  exact Char.toLower_toUpper_eq_toLower character

theorem isUpper_of_mem_lowered {characters : List Char} {character : Char}
    (member : character ∈ lowered characters) : character.isUpper = false := by
  rcases List.mem_map.mp member with ⟨original, -, rfl⟩
  exact Char.isUpper_toLower_eq_false original

/-- A text is in a single case when letters of one of the two cases do not occur. -/
theorem isMixedCase_eq_false_iff {characters : List Char} :
    isMixedCase characters = false ↔
      (∀ character ∈ characters, character.isLower = false) ∨
        ∀ character ∈ characters, character.isUpper = false := by
  simp only [isMixedCase, Bool.and_eq_false_iff, List.any_eq_false,
    Bool.not_eq_true]

theorem isMixedCase_eq_false {characters : List Char}
    (noUpper : ∀ character ∈ characters, character.isUpper = false) :
    isMixedCase characters = false :=
  isMixedCase_eq_false_iff.mpr (.inr noUpper)

theorem map_toUpper_eq_self {characters : List Char}
    (noLower : ∀ character ∈ characters, character.isLower = false) :
    characters.map Char.toUpper = characters := by
  have fixed : ∀ character ∈ characters, character.toUpper = id character := by
    intro character member
    exact Char.toUpper_eq_of_not_isLower (by simp [noLower character member])
  rw [List.map_congr_left fixed, List.map_id]

theorem map_toUpper_lowered (characters : List Char) :
    (lowered characters).map Char.toUpper = characters.map Char.toUpper := by
  rw [lowered, List.map_map]
  apply List.map_congr_left
  intro character _
  exact Char.toUpper_toLower_eq_toUpper character

theorem isMixedCase_map_toUpper (characters : List Char) :
    isMixedCase (characters.map Char.toUpper) = false := by
  rw [isMixedCase_eq_false_iff]
  left
  intro character member
  rcases List.mem_map.mp member with ⟨original, -, rfl⟩
  simp

theorem lowered_lowered (characters : List Char) :
    lowered (lowered characters) = lowered characters :=
  lowered_eq_self fun _ member => isUpper_of_mem_lowered member

theorem isMixedCase_lowered (characters : List Char) :
    isMixedCase (lowered characters) = false :=
  isMixedCase_eq_false fun _ member => isUpper_of_mem_lowered member

theorem toList_toLower (text : String) : text.toLower.toList = lowered text.toList := by
  rw [String.toLower, String.toList_map, lowered]

theorem ofList_lowered (text : String) :
    String.ofList (lowered text.toList) = text.toLower := by
  rw [← toList_toLower, String.ofList_toList]

/-- The texts in a single case with a given lower case form are that form and its upper
case form. -/
theorem single_case_and_toLower_eq_iff {text lower : String}
    (noUpper : ∀ character ∈ lower.toList, character.isUpper = false) :
    isMixedCase text.toList = false ∧ text.toLower = lower ↔
      text = lower ∨ text = lower.toUpper := by
  simp only [← String.toList_inj, String.toLower, String.toUpper,
    String.toList_map]
  change _ ∧ lowered text.toList = lower.toList ↔ _
  constructor
  · intro cased
    rcases cased with ⟨single, same⟩
    rw [← same]
    rcases isMixedCase_eq_false_iff.mp single with noLower | noUpper
    · right
      rw [map_toUpper_lowered, map_toUpper_eq_self noLower]
    · left
      rw [lowered_eq_self noUpper]
  · intro either
    rcases either with same | same
    · rw [same]
      exact ⟨isMixedCase_eq_false noUpper, lowered_eq_self noUpper⟩
    · rw [same, lowered_map_toUpper]
      exact ⟨isMixedCase_map_toUpper _, lowered_eq_self noUpper⟩

/-- A character without a case does not count. -/
theorem isMixedCase_append_cons {first second : List Char} {character : Char}
    (notLower : character.isLower = false) (notUpper : character.isUpper = false) :
    isMixedCase (first ++ character :: second) =
      isMixedCase (first ++ second) := by
  simp [isMixedCase, notLower, notUpper]

end NostrEntities.Text
