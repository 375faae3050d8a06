import Mathlib
import NostrEntities.Proofs.Bech32.Remainder
import NostrEntities.Proofs.Bech32.Substitution
import NostrEntities.Proofs.Guarded.Bech32
import NostrEntities.Proofs.Guarded.Writer

/-!
# The checksum as a remainder

The checksum of a text is defined by a remainder: the words of the human-readable part
and the words that follow are one polynomial, and a text passes when the remainder of
that polynomial is the constant of a variant. Writing and reading compute the same a word
at a time. A machine that does so never has more than 30 bits in its register.
-/

namespace NostrEntities.Bech32

open Guarded

/-! ## The registers on the way -/

/-- All registers on the way through a list of words: the one at the start, and for each
word the one that has room for it and the one that took it in. -/
def Residue.registers : Residue → List Word → List Residue
  | register, [] => [register]
  | register, word :: rest =>
      register :: register.step :: registers (register.absorb word) rest

/-- The registers of a machine on the way through a list of words. -/
def guardedRegisters : UInt32 → List UInt32 → Guarded Error (List UInt32)
  | register, [] => pure [register]
  | register, word :: rest => do
      let stepped ← guardedStep register
      let others ← guardedRegisters (stepped ^^^ word) rest
      return register :: stepped :: others

theorem Residue.toNat_widen_lt (residue : Residue) : residue.widen.toNat < 2 ^ 30 := by
  rw [toNat_widen]
  exact residue.isLt

theorem Residue.exists_widen_eq {register : UInt32} (small : register.toNat < 2 ^ 30) :
    ∃ residue : Residue, residue.widen = register := by
  refine ⟨BitVec.ofNat 30 register.toNat, UInt32.toNat_inj.mp ?_⟩
  rw [toNat_widen, BitVec.toNat_ofNat, Nat.mod_eq_of_lt small]

/-- A register that holds 30 bits makes room and takes in a word without a fault, and
still holds 30 bits. -/
theorem exists_guardedStep {register : UInt32} (small : register.toNat < 2 ^ 30) :
    ∃ stepped, guardedStep register = pure stepped ∧ stepped.toNat < 2 ^ 30 ∧
      ∀ word : Word, (stepped ^^^ word.widen).toNat < 2 ^ 30 := by
  rcases Residue.exists_widen_eq small with ⟨residue, rfl⟩
  refine ⟨_, guardedStep_widen residue, Residue.toNat_widen_lt _, ?_⟩
  intro word
  rw [← Residue.widen_xor_word]
  exact Residue.toNat_widen_lt _

theorem Residue.getLast?_registers (register : Residue) (words : List Word) :
    (register.registers words).getLast? = some (register.absorbAll words) := by
  induction words generalizing register with
  | nil => rfl
  | cons word rest ih =>
      rw [registers, List.getLast?_cons, List.getLast?_cons, ih]
      rfl

theorem guardedRegisters_widen (residue : Residue) (words : List Word) :
    guardedRegisters residue.widen (words.map Word.widen) =
      pure ((residue.registers words).map Residue.widen) := by
  induction words generalizing residue with
  | nil => rfl
  | cons word rest ih =>
      rw [List.map_cons, guardedRegisters, guardedStep_widen, Guarded.pure_bind,
        ← Residue.widen_xor_word]
      change (do
        let others ← guardedRegisters (residue.absorb word).widen
          (rest.map Word.widen)
        return residue.widen :: residue.step.widen :: others) = _
      rw [ih, Guarded.pure_bind]
      rfl

/-- Every register on the way stays below `2 ^ 30`, and the last one is the remainder. -/
theorem exists_guardedRegisters (words : List Word) :
    ∃ states, guardedRegisters 1 (words.map Word.widen) = pure states ∧
      (∀ state ∈ states, state.toNat < 2 ^ 30) ∧
        states.getLast?.map UInt32.toNat = some (polymod words) := by
  refine ⟨_, guardedRegisters_widen Residue.initial words, ?_, ?_⟩
  · intro state member
    rcases List.mem_map.mp member with ⟨residue, -, rfl⟩
    exact Residue.toNat_widen_lt residue
  · rw [List.getLast?_map, Residue.getLast?_registers, Option.map_some, Option.map_some,
      Residue.toNat_widen, Residue.toNat_absorbAll_initial]

/-- Both passes over a human-readable part lead to the remainder of its words. -/
theorem exists_guardedResidue (bytes : List UInt8) :
    ∃ register, guardedResidue bytes = pure register ∧
      register.toNat = polymod (expansion bytes) := by
  refine ⟨_, guardedResidue_eq_pure bytes, ?_⟩
  rw [Residue.toNat_widen, Residue.toNat_absorbAll_initial]

/-! ## Texts -/

variable {limit : Nat} {hrp data : String} {variant : Variant}

theorem expansion_utf8Bytes
    (characters : ∀ character ∈ hrp.toList, isHrpCharacter character = true) :
    expansion (Text.utf8Bytes hrp) = expandHrp hrp.toList := by
  have ascii := toNat_lt_of_isHrpCharacter characters
  rw [Text.utf8Bytes_of_ascii ascii, expansion_asciiBytes ascii]

theorem expansion_toLower
    (characters : ∀ character ∈ hrp.toList, isHrpCharacter character = true) :
    expansion (Text.utf8Bytes hrp.toLower) = expandHrp (Text.lowered hrp.toList) := by
  have lowered := isHrpCharacter_of_mem_lowered characters
  rw [← Text.toList_toLower] at lowered ⊢
  exact expansion_utf8Bytes lowered

/-- Parts that obey the format are written with the checksum that the remainder
defines. -/
theorem encode_eq_ok_iff_polymod {parts : Parts} {text : String}
    (nonempty : parts.hrp ≠ "")
    (characters : ∀ character ∈ parts.hrp.toList,
      isHrpCharacter character = true ∧ character.isUpper = false)
    (small : ∀ word ∈ parts.words, word < 32) :
    encode limit parts = .ok text ↔
      parts.hrp.utf8ByteSize + 7 + parts.words.length ≤ limit ∧
        text = String.ofList (parts.hrp.toList ++ '1' ::
          (parts.words.map Word.ofByte ++
            digits (polymod (expansion (Text.utf8Bytes parts.hrp) ++
                parts.words.map Word.ofByte ++ List.replicate 6 0) ^^^
              parts.variant.constant.toNat)).map Word.symbol) := by
  have valid := fun character member => (characters character member).1
  have same : parts.words = (parts.words.map Word.ofByte).map Word.toByte :=
    (Word.map_toByte_ofByte small).symm
  have injective := List.map_injective_iff.mpr
    (Function.LeftInverse.injective Word.ofByte_toByte)
  rw [encode_eq_ok_iff, expansion_utf8Bytes valid, ← checksum_eq_digits,
    ← encodedLength_eq characters same]
  constructor
  · intro written
    rcases written with ⟨words, writes, rfl⟩
    have taken := injective (writes.words_eq.symm.trans same)
    rw [← taken]
    exact ⟨writes.length_le, rfl⟩
  · intro written
    rcases written with ⟨fits, rfl⟩
    refine ⟨_, ⟨same, ?_, characters, fits⟩, rfl⟩
    rwa [ne_eq, String.toList_eq_nil_iff]

theorem toList_append_separator :
    (hrp ++ "1" ++ data).toList = hrp.toList ++ separator :: data.toList := by
  simp [separator]

/-- In the right characters and a single case, only the lengths are left to check. -/
theorem reads_iff_lengths (nonempty : hrp ≠ "")
    (characters : ∀ character ∈ hrp.toList, isHrpCharacter character = true)
    (symbols : ∀ character ∈ data.toList, Word.isSymbol character = true)
    (single : Text.isMixedCase (hrp.toList ++ data.toList) = false) :
    Reads limit (hrp ++ "1" ++ data) hrp.toList data.toList ↔
      hrp.length + 1 + data.length ≤ limit ∧ 6 ≤ data.length := by
  have size : (hrp ++ "1" ++ data).toList.length = hrp.length + 1 + data.length := by
    rw [toList_append_separator, List.length_append, List.length_cons,
      String.length_toList, String.length_toList]
    omega
  constructor
  · intro reads
    rw [← size]
    exact ⟨reads.length_le, reads.long_enough⟩
  · intro lengths
    exact {
      toList_eq := toList_append_separator
      hrp_ne_nil := by rwa [ne_eq, String.toList_eq_nil_iff]
      hrp_characters := characters
      data_symbols := symbols
      long_enough := lengths.2
      single_case := by
        rw [toList_append_separator, isMixedCase_append_separator, single]
      length_le := by
        rw [size]
        exact lengths.1 }

/-- A text in the right format is read as one of a variant exactly when the remainder of
its words is the constant of the variant. -/
theorem exists_decode_iff_polymod (nonempty : hrp ≠ "")
    (characters : ∀ character ∈ hrp.toList, isHrpCharacter character = true)
    (symbols : ∀ character ∈ data.toList, Word.isSymbol character = true)
    (single : Text.isMixedCase (hrp.toList ++ data.toList) = false) :
    (∃ parts, decode limit (hrp ++ "1" ++ data) = .ok parts ∧
        parts.variant = variant) ↔
      hrp.length + 1 + data.length ≤ limit ∧ 6 ≤ data.length ∧
        polymod (expansion (Text.utf8Bytes hrp.toLower) ++
          Word.ofSymbols data.toList) = variant.constant.toNat := by
  rw [expansion_toLower characters, ← residue_eq_constant_iff_polymod, ← and_assoc,
    ← reads_iff_lengths nonempty characters symbols single]
  constructor
  · intro accepted
    rcases accepted with ⟨parts, read, rfl⟩
    rcases decode_eq_ok_iff_reads.mp read with ⟨before, after, reads, verified⟩
    rcases reads.split_unique toList_append_separator
      (separator_not_mem_of_isSymbol symbols) with ⟨same, sameData⟩
    rw [← same, ← sameData] at reads verified
    exact ⟨reads, (verify_eq_ok_iff.mp verified).1⟩
  · rintro ⟨reads, remains⟩
    rw [decode_of_reads reads, verify, remains, Variant.ofResidue?_constant]
    exact ⟨_, rfl, rfl⟩

/-- The checksum is defined by the remainder modulo the generator. For human-readable
parts in lower case and words of five bits, writing appends the digits of the remainder
of everything with six zeros behind it, changed by the constant of the variant. A text in
a single case and in the right characters is read as one of a variant exactly when the
remainder of its words is the constant of that variant. Machines that write and read come
to the same, and have no more than 30 bits in a register on the way, so six digits are all of
it. -/
theorem encode_decode_by_polymod_and_registers_lt :
    (∀ (limit : Nat) (parts : Parts) (text : String),
      parts.hrp ≠ "" →
      (∀ character ∈ parts.hrp.toList,
        33 ≤ character.toNat ∧ character.toNat ≤ 126 ∧ character.isUpper = false) →
      (∀ word ∈ parts.words, word < 32) →
      (encode limit parts = .ok text ↔
        parts.hrp.utf8ByteSize + 7 + parts.words.length ≤ limit ∧
          text = String.ofList (parts.hrp.toList ++ '1' ::
            (parts.words.map Word.ofByte ++
              digits (polymod (expansion (Text.utf8Bytes parts.hrp) ++
                  parts.words.map Word.ofByte ++ List.replicate 6 0) ^^^
                parts.variant.constant.toNat)).map Word.symbol))) ∧
    (∀ (limit : Nat) (hrp data : String) (variant : Variant),
      hrp ≠ "" →
      (∀ character ∈ hrp.toList, 33 ≤ character.toNat ∧ character.toNat ≤ 126) →
      (∀ character ∈ data.toList, Word.isSymbol character = true) →
      ((∀ character ∈ hrp.toList ++ data.toList, character.isLower = false) ∨
        ∀ character ∈ hrp.toList ++ data.toList, character.isUpper = false) →
      ((∃ parts, decode limit (hrp ++ "1" ++ data) = .ok parts ∧
          parts.variant = variant) ↔
        hrp.length + 1 + data.length ≤ limit ∧ 6 ≤ data.length ∧
          polymod (expansion (Text.utf8Bytes hrp.toLower) ++
            Word.ofSymbols data.toList) = variant.constant.toNat)) ∧
    (∀ limit parts,
      guardedEncode limit parts = Guarded.ofExcept (encode limit parts)) ∧
    (∀ limit text,
      guardedDecode limit text = Guarded.ofExcept (decode limit text)) ∧
    (∀ hrp, ∃ register, guardedResidue hrp = pure register ∧
      register.toNat = polymod (expansion hrp)) ∧
    (∀ register : UInt32, register.toNat < 2 ^ 30 →
      ∃ stepped, guardedStep register = pure stepped ∧ stepped.toNat < 2 ^ 30 ∧
        ∀ word : Word, (stepped ^^^ word.widen).toNat < 2 ^ 30) ∧
    (∀ words : List Word, ∃ states,
      guardedRegisters 1 (words.map Word.widen) = pure states ∧
        (∀ state ∈ states, state.toNat < 2 ^ 30) ∧
          states.getLast?.map UInt32.toNat = some (polymod words)) ∧
    ∀ words (variant : Variant),
      polymod words ^^^ variant.constant.toNat < 2 ^ 30 := by
  refine ⟨?_, ?_, guardedEncode_eq, guardedDecode_eq, exists_guardedResidue,
    fun _ small => exists_guardedStep small, exists_guardedRegisters,
    polymod_xor_constant_lt⟩
  · intro limit parts text nonempty characters small
    refine encode_eq_ok_iff_polymod nonempty ?_ small
    simpa only [isHrpCharacter, Bool.and_eq_true, decide_eq_true_eq, and_assoc]
      using characters
  · intro limit hrp data variant nonempty characters symbols single
    refine exists_decode_iff_polymod nonempty ?_ symbols
      (Text.isMixedCase_eq_false_iff.mpr single)
    simpa only [isHrpCharacter, Bool.and_eq_true, decide_eq_true_eq] using characters

/-- The checksum of a text of the second variant whose human-readable part is made of
separators, and the remainder that the text in upper case leaves. -/
theorem polymod_of_separators :
    encode 11 { hrp := "11", words := [31, 0], variant := .bech32m } =
        .ok "111lqezj7uy" ∧
      "ezj7uy".toList =
        (digits (polymod (expansion (Text.utf8Bytes "11") ++
            [31, 0, 0, 0, 0, 0, 0, 0]) ^^^
          Variant.bech32m.constant.toNat)).map Word.symbol ∧
      decode 11 "111LQEZJ7UY" =
        .ok { hrp := "11", words := [31, 0], variant := .bech32m } ∧
      polymod (expansion (Text.utf8Bytes "11") ++ Word.ofSymbols "LQEZJ7UY".toList) =
        Variant.bech32m.constant.toNat := by
  have written :
      encode 11 { hrp := "11", words := [31, 0], variant := .bech32m } =
        .ok "111lqezj7uy" := by
    cbv
  have read : decode 11 "111LQEZJ7UY" =
      .ok { hrp := "11", words := [31, 0], variant := .bech32m } := by
    cbv
  have lower : "11".toLower = "11" := by
    cbv
  have highest : Word.ofByte 31 = 31 := by decide
  have lowest : Word.ofByte 0 = 0 := by decide
  have symbols : ∀ character ∈ "LQEZJ7UY".toList,
      Word.isSymbol character = true := by
    simp
    decide
  rcases encode_decode_by_polymod_and_registers_lt with ⟨writes, reads, -⟩
  have text := ((writes 11 _ _ (by decide) (by simp) (by simp)).mp written).2
  have remains := ((reads 11 "11" "LQEZJ7UY" .bech32m (by decide) (by simp) symbols
    (.inl (by simp))).mp ⟨_, read, rfl⟩).2.2
  have check := congrArg (fun text => text.toList.drop 5) text
  rw [lower] at remains
  refine ⟨written, ?_, read, remains⟩
  simpa [highest, lowest] using check

end NostrEntities.Bech32
