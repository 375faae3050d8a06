import NostrEntities.Proofs.Bech32.RoundTrip
import NostrEntities.Proofs.Text.Utf8

/-!
# Spellings of a checksummed text

A text and its lower case form pass the same checks or fail the same one, and their
checksums are the same. So letter case decides nothing but whether a text of mixed case
is refused, and that only where the lower case form has no other fault than its checksum.
-/

namespace NostrEntities.Bech32

/-! ## The checks and letter case -/

/-- The cause under which the lower case form of a text is refused, given the one for the
text itself: a character that is reported is in lower case there. -/
def Error.lowered : Error → Error
  | .invalidCharacter character => .invalidCharacter character.toLower
  | cause => cause

/-- The lower case forms of both parts of a text. -/
def loweredParts : List Char × List Char → List Char × List Char :=
  Prod.map Text.lowered Text.lowered

theorem requireAll_eq_error_iff {allowed : Char → Bool} {characters : List Char}
    {cause : Error} :
    requireAll allowed characters = .error cause ↔
      ∃ character, characters.find? (fun other => !allowed other) = some character ∧
        cause = .invalidCharacter character := by
  rw [requireAll]
  cases characters.find? (fun other => !allowed other) with
  | none => simp
  | some character => simp [eq_comm]

theorem requireLongEnough_eq_error_iff {minimum length textLength : Nat}
    {cause : Error} :
    requireLongEnough minimum length textLength = .error cause ↔
      length < minimum ∧ cause = .tooShort textLength := by
  rw [requireLongEnough]
  split <;> simp_all [eq_comm]

theorem separate_eq_error {characters : List Char} {cause : Error}
    (failed : separate characters = .error cause) :
    cause = .missingSeparator ∨ cause = .emptyHrp := by
  rw [separate] at failed
  split at failed
  · cases failed
    exact .inl rfl
  · split at failed
    · cases failed
      exact .inr rfl
    · cases failed

theorem requireWithin_eq_lowered (limit length : Nat) :
    requireWithin limit length =
      ((requireWithin limit length).mapError Error.lowered).map id := by
  rw [requireWithin]
  split <;> rfl

theorem requireLongEnough_eq_lowered (minimum length textLength : Nat) :
    requireLongEnough minimum length textLength =
      ((requireLongEnough minimum length textLength).mapError
        Error.lowered).map id := by
  rw [requireLongEnough]
  split <;> rfl

/-- A test that does not see case finds the first offender at the same place. -/
theorem requireAll_lowered {allowed : Char → Bool}
    (caseless : ∀ character, allowed character.toLower = allowed character)
    (characters : List Char) :
    requireAll allowed (Text.lowered characters) =
      ((requireAll allowed characters).mapError Error.lowered).map id := by
  have same : ((fun character => !allowed character) ∘ Char.toLower) =
      fun character => !allowed character := by
    funext character
    simp only [Function.comp_apply, caseless]
  rw [requireAll, requireAll, Text.lowered, List.find?_map, same]
  cases characters.find? (fun character => !allowed character) <;> rfl

theorem splitAtSeparator?_lowered (characters : List Char) :
    splitAtSeparator? (Text.lowered characters) =
      (splitAtSeparator? characters).map loweredParts := by
  induction characters with
  | nil => rfl
  | cons character rest ih =>
      rw [Text.lowered_cons, splitAtSeparator?, splitAtSeparator?, ih]
      cases splitAtSeparator? rest with
      | some parts => rfl
      | none =>
          simp only [Option.map_none, toLower_eq_separator_iff]
          split <;> rfl

theorem separate_lowered (characters : List Char) :
    separate (Text.lowered characters) =
      ((separate characters).mapError Error.lowered).map loweredParts := by
  rw [separate, separate, splitAtSeparator?_lowered]
  cases splitAtSeparator? characters with
  | none => rfl
  | some parts =>
      rcases parts with ⟨hrp, data⟩
      cases hrp <;> rfl

theorem isAscii_toLower (character : Char) :
    isAscii character.toLower = isAscii character := by
  have range := Text.isUpper_iff_toNat character
  simp only [isAscii, Text.toNat_toLower]
  split
  · rename_i upper
    have bounds := range.mp upper
    rw [Bool.eq_iff_iff]
    simp only [decide_eq_true_eq]
    omega
  · rfl

theorem isSymbol_toLower (character : Char) :
    Word.isSymbol character.toLower = Word.isSymbol character := by
  rw [Word.isSymbol, Word.isSymbol, Word.ofSymbol?_toLower]

/-! ## All checks before letter case -/

/-- The two parts of a text that passes every check before the one of letter case. -/
def readParts (limit : Nat) (text : String) :
    Except Error (List Char × List Char) := do
  let size := text.utf8ByteSize
  requireWithin limit size
  requireLongEnough minimumLength size size
  requireAll isAscii text.toList
  let (hrp, data) ← separate text.toList
  requireLongEnough checksumLength data.length size
  requireAll isHrpCharacter hrp
  requireAll Word.isSymbol data
  return (hrp, data)

theorem decode_eq_readParts (limit : Nat) (text : String) :
    decode limit text =
      readParts limit text >>= fun parts =>
        requireSingleCase (parts.1 ++ parts.2) >>= fun _ =>
          verify (Text.lowered parts.1) (Word.ofSymbols parts.2) := by
  simp only [decode, readParts, bind_assoc, pure_bind]

theorem readParts_toLower (limit : Nat) (text : String) :
    readParts limit text.toLower =
      ((readParts limit text).mapError Error.lowered).map loweredParts := by
  have size : text.toLower.utf8ByteSize = text.utf8ByteSize := by
    rw [← Text.length_utf8Bytes, Text.utf8Bytes_toLower, List.length_map,
      Text.length_utf8Bytes]
  have characters := Text.toList_toLower text
  rw [readParts, readParts, size, characters]
  refine Except.bind_eq_restated (requireWithin_eq_lowered _ _) fun _ => ?_
  refine Except.bind_eq_restated (requireLongEnough_eq_lowered _ _ _) fun _ => ?_
  refine Except.bind_eq_restated (requireAll_lowered isAscii_toLower _) fun _ => ?_
  refine Except.bind_eq_restated (separate_lowered _) fun parts => ?_
  rcases parts with ⟨hrp, data⟩
  simp only [loweredParts, Prod.map_apply, Text.length_lowered]
  refine Except.bind_eq_restated (requireLongEnough_eq_lowered _ _ _) fun _ => ?_
  refine Except.bind_eq_restated (requireAll_lowered isHrpCharacter_toLower _)
    fun _ => ?_
  refine Except.bind_eq_restated (requireAll_lowered isSymbol_toLower _) fun _ => ?_
  rfl

/-- The two parts have the case of the text. -/
theorem isMixedCase_of_readParts {limit : Nat} {text : String}
    {parts : List Char × List Char} (read : readParts limit text = .ok parts) :
    Text.isMixedCase (parts.1 ++ parts.2) = Text.isMixedCase text.toList := by
  simp only [readParts, Except.bind_eq_ok_iff, Except.exists_unit_iff, Prod.exists,
    Except.pure_eq_ok_iff, separate_eq_ok_iff] at read
  rcases read with ⟨-, -, -, hrp, data, ⟨parted, -, -⟩, -, -, -, rfl⟩
  rw [parted, isMixedCase_append_separator]

/-- Before the check of letter case no fault of the checksum is reported, and no
character that is not written in the text. -/
theorem readParts_eq_error {limit : Nat} {text : String} {cause : Error}
    (failed : readParts limit text = .error cause) :
    cause ≠ .invalidChecksum ∧
      ∀ character, cause = .invalidCharacter character →
        character ∈ text.toList := by
  simp only [readParts, Except.bind_eq_error_iff, Except.exists_unit_iff, Prod.exists,
    Except.pure_ne_error, and_false, or_false, requireWithin_eq_error_iff,
    requireLongEnough_eq_error_iff, requireAll_eq_error_iff, separate_eq_ok_iff]
    at failed
  rcases failed with ⟨-, rfl⟩ | ⟨-, ⟨-, rfl⟩ | ⟨-, ⟨offender, found, rfl⟩ | ⟨-, failed⟩⟩⟩
  · exact ⟨nofun, nofun⟩
  · exact ⟨nofun, nofun⟩
  · refine ⟨nofun, ?_⟩
    rintro _ ⟨rfl⟩
    exact List.mem_of_find?_eq_some found
  rcases failed with failed | ⟨hrp, data, ⟨parted, -, -⟩, failed⟩
  · rcases separate_eq_error failed with rfl | rfl <;> exact ⟨nofun, nofun⟩
  rcases failed with ⟨-, rfl⟩ | ⟨-, ⟨offender, found, rfl⟩ | ⟨-, offender, found, rfl⟩⟩
  · exact ⟨nofun, nofun⟩
  · refine ⟨nofun, ?_⟩
    rintro _ ⟨rfl⟩
    rw [parted]
    exact List.mem_append_left _ (List.mem_of_find?_eq_some found)
  · refine ⟨nofun, ?_⟩
    rintro _ ⟨rfl⟩
    rw [parted]
    exact List.mem_append_right _
      (List.mem_cons_of_mem _ (List.mem_of_find?_eq_some found))

/-! ## Reading in any case -/

theorem verify_eq_lowered (hrp : List Char) (words : List Word) :
    (verify hrp words).mapError Error.lowered = verify hrp words := by
  cases verified : verify hrp words with
  | ok parts => rfl
  | error cause =>
      rw [(verify_eq_error_iff.mp verified).1]
      rfl

/-- The lower case form of a text is never refused for its case, and its checksum is the
one of the text. -/
theorem decode_toLower_eq_verify (limit : Nat) (text : String) :
    decode limit text.toLower =
      (readParts limit text).mapError Error.lowered >>= fun parts =>
        verify (Text.lowered parts.1) (Word.ofSymbols parts.2) := by
  rw [decode_eq_readParts, readParts_toLower]
  cases readParts limit text with
  | error cause => rfl
  | ok parts =>
      rcases parts with ⟨hrp, data⟩
      have single : requireSingleCase (Text.lowered hrp ++ Text.lowered data) =
          .ok () := by
        rw [requireSingleCase_eq_ok_iff, ← Text.lowered_append]
        exact Text.isMixedCase_eq_false fun _ => Text.isUpper_of_mem_lowered
      have folded : Text.lowered (Text.lowered hrp) = Text.lowered hrp :=
        Text.lowered_eq_self fun _ => Text.isUpper_of_mem_lowered
      show (requireSingleCase (Text.lowered hrp ++ Text.lowered data) >>= fun _ =>
        verify (Text.lowered (Text.lowered hrp))
          (Word.ofSymbols (Text.lowered data))) =
        verify (Text.lowered hrp) (Word.ofSymbols data)
      rw [single, folded, Word.ofSymbols_lowered, Except.ok_bind]

theorem decode_of_single_case {limit : Nat} {text : String}
    (single : Text.isMixedCase text.toList = false) :
    decode limit text =
      readParts limit text >>= fun parts =>
        verify (Text.lowered parts.1) (Word.ofSymbols parts.2) := by
  rw [decode_eq_readParts]
  cases read : readParts limit text with
  | error cause => rfl
  | ok parts =>
      have allowed : requireSingleCase (parts.1 ++ parts.2) = .ok () := by
        rw [requireSingleCase_eq_ok_iff, isMixedCase_of_readParts read, single]
      rw [Except.ok_bind, Except.ok_bind, allowed, Except.ok_bind]

theorem decode_of_mixed_case {limit : Nat} {text : String}
    (mixed : Text.isMixedCase text.toList = true) :
    decode limit text = readParts limit text >>= fun _ => .error .mixedCase := by
  rw [decode_eq_readParts]
  cases read : readParts limit text with
  | error cause => rfl
  | ok parts =>
      rw [Except.ok_bind, Except.ok_bind, requireSingleCase,
        isMixedCase_of_readParts read, mixed]
      rfl

theorem decode_toLower_of_single_case {limit : Nat} {text : String}
    (single : Text.isMixedCase text.toList = false) :
    decode limit text.toLower = (decode limit text).mapError Error.lowered := by
  rw [decode_toLower_eq_verify, decode_of_single_case single]
  cases readParts limit text with
  | error cause => rfl
  | ok parts => exact (verify_eq_lowered _ _).symm

/-- Where the lower case form has no fault before its checksum, mixed case is refused. -/
theorem decode_eq_mixedCase {limit : Nat} {text : String}
    (mixed : Text.isMixedCase text.toList = true)
    (lower : (∃ parts, decode limit text.toLower = .ok parts) ∨
      decode limit text.toLower = .error .invalidChecksum) :
    decode limit text = .error .mixedCase := by
  rw [decode_toLower_eq_verify] at lower
  rw [decode_of_mixed_case mixed]
  cases read : readParts limit text with
  | ok parts => rfl
  | error cause =>
      rw [read] at lower
      rcases lower with ⟨parts, accepted⟩ | failed
      · cases accepted
      · -- Lower case of the cause does not make a fault of the checksum of it.
        have checksum : cause = .invalidChecksum := by
          cases cause <;> cases failed
          rfl
        exact absurd checksum (readParts_eq_error read).1

/-- Any other fault of the lower case form is one of the text, whatever its case. -/
theorem exists_decode_eq_error_of_mixed_case {limit : Nat} {text : String}
    {cause : Error} (mixed : Text.isMixedCase text.toList = true)
    (failed : decode limit text.toLower = .error cause)
    (other : cause ≠ .invalidChecksum) :
    ∃ written, decode limit text = .error written ∧ written.lowered = cause := by
  rw [decode_toLower_eq_verify] at failed
  rw [decode_of_mixed_case mixed]
  cases read : readParts limit text with
  | ok parts =>
      rw [read] at failed
      exact absurd (verify_eq_error_iff.mp failed).1 other
  | error written =>
      rw [read] at failed
      cases failed
      exact ⟨written, rfl, rfl⟩

theorem requireSingleCase_eq_error {characters : List Char} {cause : Error}
    (failed : requireSingleCase characters = .error cause) : cause = .mixedCase := by
  rw [requireSingleCase] at failed
  split at failed <;> cases failed
  rfl

/-- Only a character that is written in the text is reported. -/
theorem mem_of_decode_eq_error {limit : Nat} {text : String} {cause : Error}
    (failed : decode limit text = .error cause) (character : Char)
    (reported : cause = .invalidCharacter character) : character ∈ text.toList := by
  rw [decode_eq_readParts] at failed
  rcases Except.bind_eq_error_iff.mp failed with early | ⟨parts, -, late⟩
  · exact (readParts_eq_error early).2 character reported
  rcases Except.bind_eq_error_iff.mp late with mixed | ⟨-, -, checksum⟩
  · cases reported.symm.trans (requireSingleCase_eq_error mixed)
  · cases reported.symm.trans (verify_eq_error_iff.mp checksum).1

/-- A text in a single case is read like its lower case form: as the same parts, or
refused for the same cause, where a character that is reported is reported as the text has
it. A text of mixed case is refused for that if its lower case form is read or has a wrong
checksum, and otherwise for the same cause as its lower case form, up to the case of a
character that is reported. -/
theorem decode_toLower_and_mixedCase (limit : Nat) (text : String) :
    (¬ ((∃ character ∈ text.toList, character.isLower = true) ∧
          ∃ character ∈ text.toList, character.isUpper = true) →
        decode limit text.toLower = (decode limit text).mapError Error.lowered ∧
          ∀ character, decode limit text = .error (.invalidCharacter character) →
            character ∈ text.toList) ∧
      ((∃ character ∈ text.toList, character.isLower = true) ∧
          (∃ character ∈ text.toList, character.isUpper = true) →
        ((∃ parts, decode limit text.toLower = .ok parts) ∨
            decode limit text.toLower = .error .invalidChecksum →
          decode limit text = .error .mixedCase) ∧
        ∀ cause, decode limit text.toLower = .error cause →
          cause ≠ .invalidChecksum →
            ∃ written, decode limit text = .error written ∧
              written.lowered = cause ∧
              ∀ character, written = .invalidCharacter character →
                character ∈ text.toList) := by
  rw [← Text.isMixedCase_iff, Bool.not_eq_true]
  constructor
  · intro single
    exact ⟨decode_toLower_of_single_case single,
      fun character refused => mem_of_decode_eq_error refused character rfl⟩
  · intro mixed
    refine ⟨decode_eq_mixedCase mixed, ?_⟩
    intro cause failed other
    rcases exists_decode_eq_error_of_mixed_case mixed failed other with
      ⟨written, refused, same⟩
    exact ⟨written, refused, same, mem_of_decode_eq_error refused⟩

/-- A wrong symbol in upper case, a checksum in mixed case, and a wrong symbol in mixed
case. -/
theorem decode_toLower_and_mixedCase_spellings :
    decode 90 "A12UEB5L".toLower =
        (decode 90 "A12UEB5L").mapError Error.lowered ∧
      decode 90 "A12UEB5L" = .error (.invalidCharacter 'B') ∧
      'B' ∈ "A12UEB5L".toList ∧
      decode 90 "a12uEL5L".toLower =
        .ok { hrp := "a", words := [], variant := .bech32 } ∧
      decode 90 "a12uEL5L" = .error .mixedCase ∧
      decode 90 "a12UEB5L".toLower = .error (.invalidCharacter 'b') ∧
      ∃ written, decode 90 "a12UEB5L" = .error written ∧
        written.lowered = .invalidCharacter 'b' := by
  have upperRefused : decode 90 "A12UEB5L" = .error (.invalidCharacter 'B') := by
    cbv
  have lowerRead : decode 90 "a12uEL5L".toLower =
      .ok { hrp := "a", words := [], variant := .bech32 } := by
    cbv
  have lowerRefused : decode 90 "a12UEB5L".toLower = .error (.invalidCharacter 'b') := by
    cbv
  have single := (decode_toLower_and_mixedCase 90 "A12UEB5L").1
    (by rw [← Text.isMixedCase_iff]; decide)
  have mixed := (decode_toLower_and_mixedCase 90 "a12uEL5L").2
    ((Text.isMixedCase_iff _).mp (by decide))
  have mixedWrong := (decode_toLower_and_mixedCase 90 "a12UEB5L").2
    ((Text.isMixedCase_iff _).mp (by decide))
  rcases mixedWrong.2 _ lowerRefused (by simp) with ⟨cause, refused, same, -⟩
  exact ⟨single.1, upperRefused, single.2 _ upperRefused, lowerRead,
    mixed.1 (.inl ⟨_, lowerRead⟩), lowerRefused, cause, refused, same⟩

end NostrEntities.Bech32
