/-!
# Letter case

Case is a matter of the ASCII letters only: no other character has an upper or a
lower form here. A text is of mixed case when both forms occur in it.
-/

namespace NostrEntities.Text

/-- Whether upper and lower case letters both occur. -/
def isMixedCase (characters : List Char) : Bool :=
  characters.any Char.isLower && characters.any Char.isUpper

/-- Lower case form of every letter. -/
def lowered (characters : List Char) : List Char :=
  characters.map Char.toLower

/-- Equality that does not tell letter case apart. -/
def equalIgnoringCase (first second : String) : Bool :=
  lowered first.toList == lowered second.toList

@[simp] theorem length_lowered (characters : List Char) :
    (lowered characters).length = characters.length := by
  simp [lowered]

theorem isMixedCase_iff (characters : List Char) :
    isMixedCase characters = true ↔
      (∃ lower ∈ characters, lower.isLower = true) ∧
        ∃ upper ∈ characters, upper.isUpper = true := by
  simp [isMixedCase]

end NostrEntities.Text
