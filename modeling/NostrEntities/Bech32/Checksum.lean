import NostrEntities.Bech32.Word

/-!
# The checksum

The data part ends in six words that make the whole text, human-readable part
included, leave a fixed residue. The residue is a register of 30 bits: every new
word shifts it by five bits, and the five bits that fall out at the top choose
which generators are added back in. Two fixed residues are in use, one for each
variant of the format.
-/

namespace NostrEntities.Bech32

/-- The register of the checksum: six words, the oldest one on top. -/
abbrev Residue := BitVec 30

/-- The two variants of the format. Texts of the two differ in nothing but the
residue that they leave. -/
inductive Variant where
  | bech32
  | bech32m
  deriving DecidableEq, Repr

namespace Variant

/-- The residue that a text of the variant leaves. -/
def constant : Variant → Residue
  | .bech32 => 1
  | .bech32m => 0x2bc830a3

/-- The variant whose texts leave the given residue. -/
def ofResidue? (residue : Residue) : Option Variant :=
  if residue = Variant.bech32.constant then some .bech32
  else if residue = Variant.bech32m.constant then some .bech32m
  else none

@[simp] theorem ofResidue?_constant (variant : Variant) :
    ofResidue? variant.constant = some variant := by
  cases variant <;> decide

theorem ofResidue?_eq_some_iff {residue : Residue} {variant : Variant} :
    ofResidue? residue = some variant ↔ residue = variant.constant := by
  constructor
  · intro found
    unfold ofResidue? at found
    split at found
    · cases found; assumption
    · split at found
      · cases found; assumption
      · cases found
  · rintro rfl
    exact ofResidue?_constant variant

end Variant

namespace Residue

/-- The register before the first word. -/
def initial : Residue := 1

/-- What the word that falls out at the top adds to the register: one generator
for each of its bits. -/
def feedback (top : Word) : Residue :=
  (if top.getLsbD 0 then 0x3b6a57b2 else 0) ^^^
  (if top.getLsbD 1 then 0x26508e6d else 0) ^^^
  (if top.getLsbD 2 then 0x1ea119fa else 0) ^^^
  (if top.getLsbD 3 then 0x3d4233dd else 0) ^^^
  (if top.getLsbD 4 then 0x2a1462b3 else 0)

/-- Make room for one word at the bottom of the register. -/
def step (residue : Residue) : Residue :=
  (residue <<< 5) ^^^ feedback (residue.extractLsb' 25 5)

/-- Take in one word. -/
def absorb (residue : Residue) (word : Word) : Residue :=
  step residue ^^^ word.setWidth 30

/-- Take in a list of words. -/
def absorbAll (residue : Residue) (words : List Word) : Residue :=
  words.foldl absorb residue

/-- The six words of a register, the top one first. -/
def words (residue : Residue) : List Word :=
  [25, 20, 15, 10, 5, 0].map fun low => residue.extractLsb' low 5

@[simp] theorem length_words (residue : Residue) : residue.words.length = 6 := rfl

@[simp] theorem absorbAll_nil (residue : Residue) :
    absorbAll residue [] = residue := rfl

@[simp] theorem absorbAll_cons (residue : Residue) (word : Word)
    (rest : List Word) :
    absorbAll residue (word :: rest) = absorbAll (absorb residue word) rest := rfl

theorem absorbAll_append (residue : Residue) (first second : List Word) :
    absorbAll residue (first ++ second) =
      absorbAll (absorbAll residue first) second := by
  simp [absorbAll]

end Residue

/-- The words that stand for a human-readable part: the high bits of all its
characters, a zero, and the low five bits of all its characters. -/
def expandHrp (hrp : List Char) : List Word :=
  hrp.map (fun character => BitVec.ofNat 5 (character.toNat / 32)) ++
    0 :: hrp.map (fun character => BitVec.ofNat 5 character.toNat)

/-- The residue of a human-readable part and the words that follow it. -/
def residue (hrp : List Char) (words : List Word) : Residue :=
  Residue.initial.absorbAll (expandHrp hrp ++ words)

/-- Number of words in a checksum. -/
def checksumLength : Nat := 6

/-- The six words that complete a text of the given variant. -/
def checksum (hrp : List Char) (words : List Word) (variant : Variant) :
    List Word :=
  (residue hrp (words ++ List.replicate checksumLength 0) ^^^
    variant.constant).words

@[simp] theorem length_checksum (hrp : List Char) (words : List Word)
    (variant : Variant) :
    (checksum hrp words variant).length = checksumLength := rfl

end NostrEntities.Bech32
