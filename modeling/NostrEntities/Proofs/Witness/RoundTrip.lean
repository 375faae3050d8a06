import NostrEntities.Proofs.Bech32.Regroup
import NostrEntities.Proofs.Bech32.RoundTrip
import NostrEntities.Witness

/-!
# Reading and writing programs

Reading and writing ask the same of a program, in a different order, so a text is read
as a program exactly when it is in a single case and its lower case form is what
writing the program produces. The framings differ in one point only: a bare program is
always read as one of version 0, but may be written from any.
-/

namespace NostrEntities.Witness

variable {framing : Framing} {version : UInt8} {bytes words : List UInt8}

/-! ## Checks -/

theorem requireVersion_eq_ok_iff :
    requireVersion version = .ok () ↔ version ≤ maximumVersion := by
  rw [requireVersion]
  split
  · rename_i above
    simp only [reduceCtorEq, false_iff, UInt8.not_le]
    exact above
  · rename_i notAbove
    simpa using notAbove

theorem requireProgramLength_eq_ok_iff {length : Nat} :
    requireProgramLength version length = .ok () ↔
      isProgramLength version length = true := by
  rw [requireProgramLength]
  split <;> simp_all

theorem requireDataLength_eq_ok_iff {length : Nat} :
    requireDataLength length = .ok () ↔
      0 < length ∧ length ≤ maximumDataLength := by
  rw [requireDataLength]
  split <;> simp <;> omega

theorem ne_nil_of_requireDataLength
    (long : requireDataLength words.length = .ok ()) : words ≠ [] :=
  List.length_pos_iff.mp (requireDataLength_eq_ok_iff.mp long).1

theorem requireVariant_eq_ok_iff {variant : Bech32.Variant} :
    requireVariant version variant = .ok () ↔ variant = variantOf version := by
  rw [requireVariant]
  split <;> simp_all

theorem requireHrp_eq_ok_iff {expected found : String} :
    requireHrp expected found = .ok () ↔
      Text.lowered found.toList = Text.lowered expected.toList := by
  rw [requireHrp, Text.equalIgnoringCase]
  split <;> simp_all

/-! ## Programs in words -/

/-- Whether words are what carries a program of a version, as both directions ask. -/
structure Carries (framing : Framing) (version : UInt8)
    (bytes words : List UInt8) : Prop where
  version_le : version ≤ maximumVersion
  length_allowed : isProgramLength version bytes.length = true
  body : ∃ body, Bech32.wordsOfBytes bytes = .ok body ∧
    words = framing.header version ++ body

theorem Carries.length_words (carries : Carries framing version bytes words) :
    words.length =
      (framing.header version).length + (8 * bytes.length + 4) / 5 := by
  rcases carries.body with ⟨body, regrouped, rfl⟩
  rw [List.length_append, Bech32.length_of_wordsOfBytes regrouped]

/-- The longest program fills the longest data part, and no program is empty. -/
theorem Carries.requireDataLength (carries : Carries framing version bytes words) :
    requireDataLength words.length = .ok () := by
  have size := carries.length_words
  have allowed := carries.length_allowed
  have header : (framing.header version).length ≤ 1 := by
    cases framing <;> simp [Framing.header]
  simp only [isProgramLength, Bool.and_eq_true, decide_eq_true_eq] at allowed
  rw [requireDataLength_eq_ok_iff, maximumDataLength]
  omega

/-- Words split into a version that counts and the words behind it. -/
theorem split_eq_iff {body : List UInt8} (nonempty : words ≠ []) :
    framing.split words = (version, body) ↔
      framing.version version = version ∧
        words = framing.header version ++ body := by
  cases framing with
  | versioned =>
      cases words with
      | nil => exact absurd rfl nonempty
      | cons first rest =>
          simp [Framing.split, Framing.version, Framing.header]
  | bare => simp [Framing.split, Framing.version, Framing.header]

theorem readProgram_eq_ok_iff {variant : Bech32.Variant} {program : Program} :
    readProgram variant version words = .ok program ↔
      program.version = version ∧ version ≤ maximumVersion ∧
        variant = variantOf version ∧
        Bech32.wordsOfBytes program.bytes = .ok words ∧
        isProgramLength version program.bytes.length = true := by
  simp only [readProgram, Except.bind_eq_ok_iff, Except.mapError_eq_ok_iff,
    Except.exists_unit_iff, Except.pure_eq_ok_iff, requireVersion_eq_ok_iff,
    requireVariant_eq_ok_iff, requireProgramLength_eq_ok_iff,
    Bech32.bytesOfWords_eq_ok_iff]
  constructor
  · intro read
    rcases read with ⟨known, variantEq, bytes, regrouped, allowed, rfl⟩
    exact ⟨rfl, known, variantEq, regrouped, allowed⟩
  · intro read
    rcases read with ⟨rfl, known, variantEq, regrouped, allowed⟩
    exact ⟨known, variantEq, program.bytes, regrouped, allowed, rfl⟩

/-- Reading the data of a text finds the program that the words carry. -/
theorem readProgram_split_eq_ok_iff {variant : Bech32.Variant} {program : Program} :
    (requireDataLength words.length = .ok () ∧
        readProgram variant (framing.split words).1 (framing.split words).2 =
          .ok program) ↔
      framing.version program.version = program.version ∧
        variant = variantOf program.version ∧
        Carries framing program.version program.bytes words := by
  constructor
  · rintro ⟨long, read⟩
    have nonempty := ne_nil_of_requireDataLength long
    rcases found : framing.split words with ⟨version, body⟩
    rw [found] at read
    rcases (split_eq_iff nonempty).mp found with ⟨counts, wordsEq⟩
    rcases readProgram_eq_ok_iff.mp read with
      ⟨rfl, known, variantEq, regrouped, allowed⟩
    exact ⟨counts, variantEq, known, allowed, body, regrouped, wordsEq⟩
  · intro carried
    rcases carried with ⟨counts, variantEq, carries⟩
    have long := carries.requireDataLength
    have nonempty := ne_nil_of_requireDataLength long
    rcases carries.body with ⟨body, regrouped, wordsEq⟩
    rw [(split_eq_iff nonempty).mpr ⟨counts, wordsEq⟩, readProgram_eq_ok_iff]
    exact ⟨long, rfl, carries.version_le, variantEq, regrouped,
      carries.length_allowed⟩

/-! ## Both directions -/

/-- A program is written as the words that carry it, under the variant of its version. -/
theorem encode_eq_ok_iff {hrp text : String} {program : Program} :
    encode framing hrp program = .ok text ↔
      ∃ words,
        Carries framing (framing.version program.version) program.bytes words ∧
        Bech32.encode maximumLength {
          hrp, words
          variant := variantOf (framing.version program.version) } = .ok text := by
  simp only [encode, Except.bind_eq_ok_iff, Except.mapError_eq_ok_iff,
    Except.exists_unit_iff, requireVersion_eq_ok_iff,
    requireProgramLength_eq_ok_iff]
  constructor
  · rintro ⟨known, allowed, body, regrouped, written⟩
    exact ⟨_, ⟨known, allowed, body, regrouped, rfl⟩, written⟩
  · rintro ⟨words, ⟨known, allowed, body, regrouped, rfl⟩, written⟩
    exact ⟨known, allowed, body, regrouped, written⟩

/-- A text is read as a program exactly when its words carry it and its variant is that
of the version. -/
theorem decode_eq_ok_iff_carries {hrp address : String} {program : Program} :
    decode framing hrp address = .ok program ↔
      framing.version program.version = program.version ∧
        ∃ words, Carries framing program.version program.bytes words ∧
          Bech32.decode maximumLength address = .ok {
            hrp := String.ofList (Text.lowered hrp.toList), words
            variant := variantOf program.version } := by
  simp only [decode, Except.bind_eq_ok_iff, Except.mapError_eq_ok_iff,
    Except.exists_unit_iff, requireHrp_eq_ok_iff, readProgram_split_eq_ok_iff]
  constructor
  · rintro ⟨⟨found, words, variant⟩, read, named, counts, rfl, carries⟩
    -- What is found is in lower case already, so it is the lower case form expected.
    rw [Bech32.lowered_hrp_of_decode read] at named
    rw [← named, String.ofList_toList]
    exact ⟨counts, words, carries, read⟩
  · rintro ⟨counts, words, carries, read⟩
    refine ⟨_, read, ?_, counts, rfl, carries⟩
    rw [Bech32.lowered_hrp_of_decode read, String.toList_ofList]

/-- A text is read as a program exactly when it is in a single case and its lower case
form is written for the program under the lower case form of the human-readable
part. -/
theorem decode_eq_ok_iff_encode {hrp address : String} {program : Program} :
    decode framing hrp address = .ok program ↔
      framing.version program.version = program.version ∧
        Text.isMixedCase address.toList = false ∧
        encode framing (String.ofList (Text.lowered hrp.toList)) program =
          .ok (String.ofList (Text.lowered address.toList)) := by
  simp only [decode_eq_ok_iff_carries, encode_eq_ok_iff, Bech32.decode_eq_ok_iff]
  constructor
  · rintro ⟨counts, words, carries, single, written⟩
    rw [counts]
    exact ⟨rfl, single, words, carries, written⟩
  · rintro ⟨counts, single, words, carries, written⟩
    rw [counts] at carries written
    exact ⟨counts, words, carries, single, written⟩

/-- Reading accepts exactly what writing produces, in a single case of letters and under
the human-readable part in any case. A program without a version word counts as one of
version 0. -/
theorem decode_eq_ok_iff_single_case (framing : Framing) (hrp address : String)
    (program : Program) (counts : framing = .bare → program.version = 0) :
    decode framing hrp address = .ok program ↔
      ¬ ((∃ character ∈ address.toList, character.isLower = true) ∧
          ∃ character ∈ address.toList, character.isUpper = true) ∧
        encode framing hrp.toLower program = .ok address.toLower := by
  have agrees : framing.version program.version = program.version := by
    cases framing with
    | versioned => rfl
    | bare => exact (counts rfl).symm
  rw [decode_eq_ok_iff_encode, ← Text.isMixedCase_iff, Bool.not_eq_true,
    Text.ofList_lowered, Text.ofList_lowered, and_iff_right agrees]

/-- The shortest program of the highest version in upper case, under a human-readable
part in mixed case, and a program that stands without a version. -/
theorem encode_of_decode_single_case :
    (Framing.versioned = .bare → (16 : UInt8) = 0) ∧
      (Framing.bare = .bare → (0 : UInt8) = 0) ∧
      decode .versioned "Bc" "BC1SW50QGDZ25J" =
        .ok { version := 16, bytes := [0x75, 0x1e] } ∧
      encode .versioned "Bc".toLower { version := 16, bytes := [0x75, 0x1e] } =
        .ok "BC1SW50QGDZ25J".toLower ∧
      decode .bare "X" "x1llllllllllllllllllllllllllllllll2vw4h4" =
        .ok { version := 0, bytes := List.replicate 20 255 } ∧
      encode .bare "X".toLower { version := 0, bytes := List.replicate 20 255 } =
        .ok "x1llllllllllllllllllllllllllllllll2vw4h4".toLower := by
  have counts : Framing.versioned = .bare → (16 : UInt8) = 0 := by decide
  have bareCounts : Framing.bare = .bare → (0 : UInt8) = 0 := by decide
  have read : decode .versioned "Bc" "BC1SW50QGDZ25J" =
      .ok { version := 16, bytes := [0x75, 0x1e] } := by
    cbv
  have bareRead : decode .bare "X" "x1llllllllllllllllllllllllllllllll2vw4h4" =
      .ok { version := 0, bytes := List.replicate 20 255 } := by
    cbv
  exact ⟨counts, bareCounts,
    read, ((decode_eq_ok_iff_single_case _ _ _ _ counts).mp read).2,
    bareRead, ((decode_eq_ok_iff_single_case _ _ _ _ bareCounts).mp bareRead).2⟩

end NostrEntities.Witness
