import NostrEntities.Proofs.Bech32.Residue
import NostrEntities.Proofs.Bech32.Symbol
import NostrEntities.Proofs.Outcome

/-!
# Reading and writing checksummed texts

Writing succeeds exactly on parts that obey the format, and reading accepts a text
exactly when the text is in a single case and its lower case form is what writing
the parts produces. Everything else about the two directions follows from that
equivalence: each undoes the other, and parts determine their text up to case.
-/

namespace NostrEntities.Bech32

/-! ## Writing -/

/-- What writing asks of parts whose words are the given ones. -/
structure Writes (limit : Nat) (parts : Parts) (words : List Word) : Prop where
  words_eq : parts.words = words.map Word.toByte
  hrp_ne_nil : parts.hrp.toList ≠ []
  hrp_characters : ∀ character ∈ parts.hrp.toList,
    isHrpCharacter character = true ∧ character.isUpper = false
  length_le : encodedLength parts.hrp.toList words.length ≤ limit

theorem requireNonempty_eq_ok_iff {hrp : List Char} :
    requireNonempty hrp = .ok () ↔ hrp ≠ [] := by
  cases hrp <;> simp [requireNonempty]

/-- Writing succeeds exactly on parts that obey the format, with the assembled
text. -/
theorem encode_eq_ok_iff {limit : Nat} {parts : Parts} {text : String} :
    encode limit parts = .ok text ↔
      ∃ words, Writes limit parts words ∧
        text = String.ofList
          (assemble parts.hrp.toList words parts.variant) := by
  simp only [encode, Except.bind_eq_ok_iff, Except.pure_eq_ok_iff,
    Except.exists_unit_iff, requireNonempty_eq_ok_iff, requireWritable_eq_ok_iff,
    requireWithin_eq_ok_iff, Word.ofBytes_eq_ok_iff]
  constructor
  · rintro ⟨nonempty, characters, fits, words, same, rfl⟩
    refine ⟨words, ⟨same, nonempty, characters, ?_⟩, rfl⟩
    simpa [same] using fits
  · intro obeyed
    rcases obeyed with ⟨words, written, rfl⟩
    have fits := written.length_le
    rw [← List.length_map (f := Word.toByte), ← written.words_eq] at fits
    exact ⟨written.hrp_ne_nil, written.hrp_characters, fits, words,
      written.words_eq, rfl⟩

/-! ## Reading -/

/-- What reading asks of a text that splits into the given parts, apart from the
checksum. -/
structure Reads (limit : Nat) (text : String) (hrp data : List Char) : Prop where
  toList_eq : text.toList = hrp ++ separator :: data
  hrp_ne_nil : hrp ≠ []
  hrp_characters : ∀ character ∈ hrp, isHrpCharacter character = true
  data_symbols : ∀ character ∈ data, Word.isSymbol character = true
  long_enough : checksumLength ≤ data.length
  single_case : Text.isMixedCase text.toList = false
  length_le : text.toList.length ≤ limit

theorem Reads.ascii {limit : Nat} {text : String} {hrp data : List Char}
    (reads : Reads limit text hrp data) :
    ∀ character ∈ text.toList, isAscii character = true := by
  intro character member
  rw [reads.toList_eq, List.mem_append, List.mem_cons] at member
  rcases member with inHrp | rfl | inData
  · exact isAscii_of_isHrpCharacter (reads.hrp_characters character inHrp)
  · exact isAscii_separator
  · exact isAscii_of_isSymbol (reads.data_symbols character inData)

theorem Reads.separator_not_mem {limit : Nat} {text : String}
    {hrp data : List Char} (reads : Reads limit text hrp data) :
    separator ∉ data :=
  separator_not_mem_of_isSymbol reads.data_symbols

theorem requireLongEnough_eq_ok_iff {minimum length textLength : Nat} :
    requireLongEnough minimum length textLength = .ok () ↔ minimum ≤ length := by
  rw [requireLongEnough]
  split <;> simp <;> omega

theorem separate_eq_ok_iff {characters hrp data : List Char} :
    separate characters = .ok (hrp, data) ↔
      characters = hrp ++ separator :: data ∧ separator ∉ data ∧ hrp ≠ [] := by
  rw [separate]
  rw [← and_assoc, ← splitAtSeparator?_eq_some_iff]
  split
  · rename_i absent
    simp [absent]
  · rename_i before after found
    cases before with
    | nil =>
        simp only [found, List.isEmpty_nil, if_true, reduceCtorEq,
          Option.some.injEq, Prod.mk.injEq, false_iff]
        intro parts
        exact parts.2 parts.1.1.symm
    | cons first others =>
        simp only [found, List.isEmpty_cons, Bool.false_eq_true, if_false,
          Except.ok.injEq, Option.some.injEq, Prod.mk.injEq, iff_self_and]
        intro parts
        rw [← parts.1]
        exact List.cons_ne_nil first others

theorem requireSingleCase_eq_ok_iff {characters : List Char} :
    requireSingleCase characters = .ok () ↔
      Text.isMixedCase characters = false := by
  rw [requireSingleCase]
  cases Text.isMixedCase characters <;> simp

theorem isMixedCase_append_separator (hrp data : List Char) :
    Text.isMixedCase (hrp ++ separator :: data) =
      Text.isMixedCase (hrp ++ data) :=
  Text.isMixedCase_append_cons (by decide) (by decide)

/-- A text in the right format is read or refused by its checksum alone. -/
theorem decode_of_reads {limit : Nat} {text : String} {hrp data : List Char}
    (reads : Reads limit text hrp data) :
    decode limit text = verify (Text.lowered hrp) (Word.ofSymbols data) := by
  have size := utf8ByteSize_eq_length reads.ascii
  have within : requireWithin limit text.utf8ByteSize = .ok () := by
    rw [requireWithin_eq_ok_iff, size]
    exact reads.length_le
  have minimum : requireLongEnough minimumLength text.utf8ByteSize
      text.utf8ByteSize = .ok () := by
    have enough := reads.long_enough
    have positive := List.length_pos_iff.mpr reads.hrp_ne_nil
    rw [requireLongEnough_eq_ok_iff, size, reads.toList_eq, List.length_append,
      List.length_cons, minimumLength]
    rw [checksumLength] at enough
    omega
  have parts : separate text.toList = .ok (hrp, data) :=
    separate_eq_ok_iff.mpr
      ⟨reads.toList_eq, reads.separator_not_mem, reads.hrp_ne_nil⟩
  have single : requireSingleCase (hrp ++ data) = .ok () := by
    rw [requireSingleCase_eq_ok_iff, ← isMixedCase_append_separator,
      ← reads.toList_eq]
    exact reads.single_case
  rw [decode, within, minimum, requireAll_eq_ok_iff.mpr reads.ascii, parts]
  simp only [Except.ok_bind, requireLongEnough_eq_ok_iff.mpr reads.long_enough,
    requireAll_eq_ok_iff.mpr reads.hrp_characters,
    requireAll_eq_ok_iff.mpr reads.data_symbols, single]

/-- Reading checks the format of the text and then the checksum. -/
theorem decode_eq_ok_iff_reads {limit : Nat} {text : String} {parts : Parts} :
    decode limit text = .ok parts ↔
      ∃ hrp data, Reads limit text hrp data ∧
        verify (Text.lowered hrp) (Word.ofSymbols data) = .ok parts := by
  constructor
  · intro decoded
    simp only [decode, Except.bind_eq_ok_iff, Except.exists_unit_iff, Prod.exists,
      requireWithin_eq_ok_iff, requireLongEnough_eq_ok_iff, requireAll_eq_ok_iff,
      separate_eq_ok_iff, requireSingleCase_eq_ok_iff] at decoded
    rcases decoded with ⟨fits, -, ascii, hrp, data, ⟨parted, -, nonempty⟩, enough,
      characters, symbols, single, verified⟩
    rw [utf8ByteSize_eq_length ascii] at fits
    rw [← isMixedCase_append_separator, ← parted] at single
    exact ⟨hrp, data, ⟨parted, nonempty, characters, symbols, enough, single, fits⟩,
      verified⟩
  · rintro ⟨hrp, data, reads, verified⟩
    rw [decode_of_reads reads]
    exact verified

theorem verify_eq_ok_iff {hrp : List Char} {words : List Word} {parts : Parts} :
    verify hrp words = .ok parts ↔
      residue hrp words = parts.variant.constant ∧
        parts.hrp = String.ofList hrp ∧
        parts.words =
          (words.take (words.length - checksumLength)).map Word.toByte := by
  rw [← Variant.ofResidue?_eq_some_iff]
  rw [verify]
  cases known : Variant.ofResidue? (residue hrp words) with
  | none => simp
  | some variant =>
      cases parts
      simp only [Except.ok.injEq, Parts.mk.injEq, Option.some.injEq]
      constructor
      · intro same
        rcases same with ⟨rfl, rfl, rfl⟩
        exact ⟨rfl, rfl, rfl⟩
      · intro same
        rcases same with ⟨rfl, rfl, rfl⟩
        exact ⟨rfl, rfl, rfl⟩

theorem verify_eq_error_iff {hrp : List Char} {words : List Word} {cause : Error} :
    verify hrp words = .error cause ↔
      cause = .invalidChecksum ∧
        ∀ variant : Variant, residue hrp words ≠ variant.constant := by
  rw [verify]
  simp only [ne_eq, ← Variant.ofResidue?_eq_some_iff]
  cases Variant.ofResidue? (residue hrp words) with
  | none => simp [eq_comm]
  | some variant => simp

/-- Words pass the check exactly when they are the words of the parts followed by
their checksum. -/
theorem verify_eq_ok_iff_checksum {hrp : List Char} {words : List Word}
    {parts : Parts} (enough : checksumLength ≤ words.length) :
    verify hrp words = .ok parts ↔
      ∃ body, words = body ++ checksum hrp body parts.variant ∧
        parts.hrp = String.ofList hrp ∧ parts.words = body.map Word.toByte := by
  rw [verify_eq_ok_iff]
  constructor
  · intro verified
    rcases verified with ⟨remains, hrpEq, wordsEq⟩
    -- The last six words are the checksum because no other six leave the constant.
    have whole := List.take_append_drop (words.length - checksumLength) words
    have six : (words.drop (words.length - checksumLength)).length =
        checksumLength := by
      rw [List.length_drop]
      exact Nat.sub_sub_self enough
    rw [← whole, residue_eq_constant_iff six] at remains
    exact ⟨_, by rw [← remains, whole], hrpEq, wordsEq⟩
  · intro assembled
    rcases assembled with ⟨body, rfl, hrpEq, wordsEq⟩
    refine ⟨(residue_eq_constant_iff rfl).mpr rfl, hrpEq, ?_⟩
    rw [List.length_append, length_checksum, Nat.add_sub_cancel, List.take_left,
      wordsEq]

/-! ## Both directions -/

/-- Parts that are read can be written again, as the text in lower case. -/
theorem encode_of_decode {limit : Nat} {text : String} {parts : Parts}
    (read : decode limit text = .ok parts) :
    encode limit parts = .ok (String.ofList (Text.lowered text.toList)) := by
  rcases decode_eq_ok_iff_reads.mp read with ⟨hrp, data, reads, verified⟩
  have written := Word.map_symbol_ofSymbols reads.data_symbols
  have count : (Word.ofSymbols data).length = data.length := by
    simpa using congrArg List.length written
  have enough : checksumLength ≤ (Word.ofSymbols data).length := by
    rw [count]
    exact reads.long_enough
  rcases (verify_eq_ok_iff_checksum enough).mp verified with
    ⟨body, whole, hrpEq, wordsEq⟩
  have hrpList : parts.hrp.toList = Text.lowered hrp := by
    rw [hrpEq, String.toList_ofList]
  rw [encode_eq_ok_iff]
  refine ⟨body, ⟨wordsEq, ?_, ?_, ?_⟩, ?_⟩
  · rw [hrpList, ne_eq, Text.lowered_eq_nil_iff]
    exact reads.hrp_ne_nil
  · intro character member
    rw [hrpList] at member
    exact ⟨isHrpCharacter_of_mem_lowered reads.hrp_characters character member,
      Text.isUpper_of_mem_lowered member⟩
  · have fits := reads.length_le
    rw [reads.toList_eq, List.length_append, List.length_cons, ← count, whole,
      List.length_append, length_checksum] at fits
    rw [hrpList, encodedLength, Text.length_lowered]
    omega
  · rw [hrpList, assemble, ← whole, written, reads.toList_eq, Text.lowered_append,
      Text.lowered_cons]
    rfl

/-- A text in a single case is read as the parts that write it in lower case. -/
theorem decode_of_encode_lowered {limit : Nat} {text : String} {parts : Parts}
    (single : Text.isMixedCase text.toList = false)
    (written :
      encode limit parts = .ok (String.ofList (Text.lowered text.toList))) :
    decode limit text = .ok parts := by
  rcases encode_eq_ok_iff.mp written with ⟨words, writes, assembled⟩
  have shape := String.ofList_injective assembled
  have lengths := congrArg List.length shape
  rw [length_assemble, Text.length_lowered] at lengths
  rcases List.map_eq_append_iff.mp shape with ⟨hrp, rest, parted, hrpLower, restLower⟩
  rcases List.map_eq_cons_iff.mp restLower with
    ⟨character, data, rfl, separatorLower, dataLower⟩
  rcases toLower_eq_separator_iff.mp separatorLower with rfl
  change Text.lowered hrp = parts.hrp.toList at hrpLower
  change Text.lowered data = _ at dataLower
  have symbols : Word.ofSymbols data =
      words ++ checksum parts.hrp.toList words parts.variant := by
    rw [← Word.ofSymbols_lowered, dataLower, Word.ofSymbols_map_symbol]
  have dataLength : data.length = words.length + checksumLength := by
    rw [← Text.length_lowered, dataLower, List.length_map, List.length_append,
      length_checksum]
  rw [decode_eq_ok_iff_reads]
  refine ⟨hrp, data, ⟨parted, ?_, ?_, ?_, ?_, single, ?_⟩, ?_⟩
  · intro empty
    apply writes.hrp_ne_nil
    rw [← hrpLower, empty, Text.lowered_nil]
  · intro character member
    have lower : character.toLower ∈ parts.hrp.toList := by
      rw [← hrpLower]
      exact List.mem_map_of_mem member
    rw [← isHrpCharacter_toLower]
    exact (writes.hrp_characters _ lower).1
  · intro character member
    have lower := List.mem_map_of_mem (f := Char.toLower) member
    change character.toLower ∈ Text.lowered data at lower
    rw [dataLower] at lower
    rcases List.mem_map.mp lower with ⟨word, -, same⟩
    rw [Word.isSymbol, Word.ofSymbol?_eq_some_iff.mpr same.symm]
    rfl
  · omega
  · rw [lengths]
    exact writes.length_le
  · have enough : checksumLength ≤ (Word.ofSymbols data).length := by
      rw [symbols, List.length_append, length_checksum]
      exact Nat.le_add_left _ _
    rw [hrpLower, verify_eq_ok_iff_checksum enough]
    exact ⟨words, symbols, String.ofList_toList.symm, writes.words_eq⟩

/-- Reading accepts exactly the texts in a single case whose lower case form is
written for the parts. -/
theorem decode_eq_ok_iff {limit : Nat} {text : String} {parts : Parts} :
    decode limit text = .ok parts ↔
      Text.isMixedCase text.toList = false ∧
        encode limit parts = .ok (String.ofList (Text.lowered text.toList)) := by
  constructor
  · intro read
    rcases decode_eq_ok_iff_reads.mp read with ⟨hrp, data, reads, -⟩
    exact ⟨reads.single_case, encode_of_decode read⟩
  · intro parts
    exact decode_of_encode_lowered parts.1 parts.2

/-- A text that is written has no upper case letter. -/
theorem isUpper_of_encode {limit : Nat} {parts : Parts} {text : String}
    (written : encode limit parts = .ok text) :
    ∀ character ∈ text.toList, character.isUpper = false := by
  rcases encode_eq_ok_iff.mp written with ⟨words, writes, rfl⟩
  intro character member
  rw [String.toList_ofList, assemble, List.mem_append, List.mem_cons] at member
  rcases member with inHrp | rfl | inData
  · exact (writes.hrp_characters character inHrp).2
  · rfl
  · rcases List.mem_map.mp inData with ⟨word, -, rfl⟩
    exact Word.isUpper_symbol word

/-- The human-readable part that is read is in lower case. -/
theorem lowered_hrp_of_decode {limit : Nat} {text : String} {parts : Parts}
    (read : decode limit text = .ok parts) :
    Text.lowered parts.hrp.toList = parts.hrp.toList := by
  rcases encode_eq_ok_iff.mp (encode_of_decode read) with ⟨words, writes, -⟩
  apply Text.lowered_eq_self
  intro character member
  exact (writes.hrp_characters character member).2

/-- What is written can be read back. -/
theorem decode_of_encode {limit : Nat} {parts : Parts} {text : String}
    (written : encode limit parts = .ok text) :
    decode limit text = .ok parts := by
  have noUpper := isUpper_of_encode written
  rw [decode_eq_ok_iff, Text.lowered_eq_self noUpper, String.ofList_toList]
  exact ⟨Text.isMixedCase_eq_false noUpper, written⟩

/-- The limit decides whether parts are written, not as which text. -/
theorem eq_of_encode {limit otherLimit : Nat} {parts : Parts}
    {text other : String} (written : encode limit parts = .ok text)
    (otherWritten : encode otherLimit parts = .ok other) : other = text := by
  rcases encode_eq_ok_iff.mp written with ⟨words, writes, rfl⟩
  rcases encode_eq_ok_iff.mp otherWritten with ⟨otherWords, otherWrites, rfl⟩
  have injective := List.map_injective_iff.mpr
    (Function.LeftInverse.injective Word.ofByte_toByte)
  rw [injective (otherWrites.words_eq.symm.trans writes.words_eq)]

/-- Parts that are read are written as the lower case form of the text. So the texts
that are read as the same parts, within whatever limits, agree up to letter case, and
only one of them has no upper case letter. -/
theorem encode_eq_lowered_and_unique (limit : Nat) (text : String) (parts : Parts)
    (read : decode limit text = .ok parts) :
    encode limit parts = .ok (String.ofList (text.toList.map Char.toLower)) ∧
      ∀ otherLimit other, decode otherLimit other = .ok parts →
        other.toList.map Char.toLower = text.toList.map Char.toLower ∧
          ((∀ character ∈ text.toList, character.isUpper = false) →
            (∀ character ∈ other.toList, character.isUpper = false) →
              other = text) := by
  refine ⟨encode_of_decode read, ?_⟩
  intro otherLimit other otherRead
  have same : Text.lowered other.toList = Text.lowered text.toList :=
    String.ofList_injective
      (eq_of_encode (encode_of_decode read) (encode_of_decode otherRead))
  refine ⟨same, ?_⟩
  intro noUpper otherNoUpper
  rw [Text.lowered_eq_self noUpper, Text.lowered_eq_self otherNoUpper] at same
  exact String.toList_injective same

/-- A text in upper case, and the one in lower case with the same parts. -/
theorem encode_eq_lowered_and_unique_upper :
    decode 90 "A12UEL5L" = .ok { hrp := "a", words := [], variant := .bech32 } ∧
      decode 8 "a12uel5l" = .ok { hrp := "a", words := [], variant := .bech32 } ∧
      encode 90 { hrp := "a", words := [], variant := .bech32 } =
        .ok (String.ofList ("A12UEL5L".toList.map Char.toLower)) ∧
      "a12uel5l".toList.map Char.toLower = "A12UEL5L".toList.map Char.toLower := by
  have read :
      decode 90 "A12UEL5L" = .ok { hrp := "a", words := [], variant := .bech32 } := by
    cbv
  have otherRead :
      decode 8 "a12uel5l" = .ok { hrp := "a", words := [], variant := .bech32 } := by
    cbv
  rcases encode_eq_lowered_and_unique _ _ _ read with ⟨written, unique⟩
  exact ⟨read, otherRead, written, (unique 8 _ otherRead).1⟩

/-! ## Lengths -/

/-- The length that writing compares with its limit, counted in bytes. -/
theorem encodedLength_eq {parts : Parts} {words : List Word}
    (characters : ∀ character ∈ parts.hrp.toList,
      isHrpCharacter character = true ∧ character.isUpper = false)
    (same : parts.words = words.map Word.toByte) :
    encodedLength parts.hrp.toList words.length =
      parts.hrp.utf8ByteSize + 7 + parts.words.length := by
  rw [utf8ByteSize_eq_length fun character member =>
      isAscii_of_isHrpCharacter (characters character member).1,
    same, List.length_map, encodedLength, checksumLength]
  omega

/-- The limit decides whether a text is written, not which one. -/
theorem encode_of_encode {limit other : Nat} {parts : Parts} {text : String}
    (written : encode limit parts = .ok text)
    (fits : parts.hrp.utf8ByteSize + 7 + parts.words.length ≤ other) :
    encode other parts = .ok text := by
  rcases encode_eq_ok_iff.mp written with ⟨words, writes, rfl⟩
  rw [← encodedLength_eq writes.hrp_characters writes.words_eq] at fits
  exact encode_eq_ok_iff.mpr ⟨words, { writes with length_le := fits }, rfl⟩

theorem utf8ByteSize_of_decode {limit : Nat} {text : String} {parts : Parts}
    (read : decode limit text = .ok parts) :
    text.utf8ByteSize = parts.hrp.utf8ByteSize + 7 + parts.words.length := by
  rcases decode_eq_ok_iff_reads.mp read with ⟨hrp, data, reads, -⟩
  rcases encode_eq_ok_iff.mp (encode_of_decode read) with ⟨words, writes, assembled⟩
  have lengths := congrArg List.length (String.ofList_injective assembled)
  rw [length_assemble, Text.length_lowered] at lengths
  rw [utf8ByteSize_eq_length reads.ascii, lengths,
    encodedLength_eq writes.hrp_characters writes.words_eq]

/-- Parts can be written exactly when they obey the format. -/
theorem exists_encode_iff {limit : Nat} {parts : Parts} :
    (∃ text, encode limit parts = .ok text) ↔
      parts.hrp ≠ "" ∧
        (∀ character ∈ parts.hrp.toList,
          isHrpCharacter character = true ∧ character.isUpper = false) ∧
        (∀ word ∈ parts.words, word < 32) ∧
        parts.hrp.utf8ByteSize + 7 + parts.words.length ≤ limit := by
  constructor
  · intro writable
    rcases writable with ⟨text, written⟩
    rcases encode_eq_ok_iff.mp written with ⟨words, writes, -⟩
    refine ⟨?_, writes.hrp_characters,
      Word.exists_map_toByte_iff.mp ⟨words, writes.words_eq⟩, ?_⟩
    · intro empty
      apply writes.hrp_ne_nil
      rw [empty, String.toList_empty]
    · rw [← encodedLength_eq writes.hrp_characters writes.words_eq]
      exact writes.length_le
  · intro obeyed
    rcases obeyed with ⟨nonempty, characters, small, fits⟩
    rcases Word.exists_map_toByte_iff.mpr small with ⟨words, same⟩
    refine ⟨_, encode_eq_ok_iff.mpr ⟨words, ⟨same, ?_, characters, ?_⟩, rfl⟩⟩
    · rwa [ne_eq, String.toList_eq_nil_iff]
    · rwa [encodedLength_eq characters same]

theorem requireWithin_eq_error_iff {limit length : Nat} {cause : Error} :
    requireWithin limit length = .error cause ↔
      limit < length ∧ cause = .lengthExceeded length limit := by
  rw [requireWithin]
  split <;> simp_all [eq_comm]

/-- Parts that obey the format are refused for the length of their text only. -/
theorem encode_eq_error_iff {limit : Nat} {parts : Parts} {cause : Error}
    (nonempty : parts.hrp ≠ "")
    (characters : ∀ character ∈ parts.hrp.toList,
      isHrpCharacter character = true ∧ character.isUpper = false)
    (small : ∀ word ∈ parts.words, word < 32) :
    encode limit parts = .error cause ↔
      limit < parts.hrp.utf8ByteSize + 7 + parts.words.length ∧
        cause = .lengthExceeded
          (parts.hrp.utf8ByteSize + 7 + parts.words.length) limit := by
  rcases Word.exists_map_toByte_iff.mpr small with ⟨words, same⟩
  have count : words.length = parts.words.length := by
    rw [same, List.length_map]
  have filled : requireNonempty parts.hrp.toList = .ok () := by
    rwa [requireNonempty_eq_ok_iff, ne_eq, String.toList_eq_nil_iff]
  simp only [encode, filled, requireWritable_eq_ok_iff.mpr characters,
    Word.ofBytes_eq_ok_iff.mpr same, Except.ok_bind, Except.bind_eq_error_iff,
    Except.pure_ne_error, and_false, exists_false, or_false,
    requireWithin_eq_error_iff]
  rw [← count, encodedLength_eq characters same, count]

/-- Writing succeeds exactly on a nonempty human-readable part of printable
characters without upper case, words of five bits and a length within the limit;
and whatever it writes is read back as the same parts, for human-readable parts
with separators in them and for both variants alike. -/
theorem exists_encode_iff_and_decode (limit : Nat) (parts : Parts) :
    ((∃ text, encode limit parts = .ok text) ↔
      parts.hrp ≠ "" ∧
        (∀ character ∈ parts.hrp.toList,
          33 ≤ character.toNat ∧ character.toNat ≤ 126 ∧
            character.isUpper = false) ∧
        (∀ word ∈ parts.words, word < 32) ∧
        parts.hrp.utf8ByteSize + 7 + parts.words.length ≤ limit) ∧
      ∀ text, encode limit parts = .ok text → decode limit text = .ok parts := by
  constructor
  · rw [exists_encode_iff]
    simp only [isHrpCharacter, Bool.and_eq_true, decide_eq_true_eq, and_assoc]
  · intro text written
    exact decode_of_encode written

/-- The separator may be the whole human-readable part. -/
theorem decode_encode_separators :
    encode 11 { hrp := "11", words := [31, 0], variant := .bech32m } =
        .ok "111lqezj7uy" ∧
      decode 11 "111lqezj7uy" =
        .ok { hrp := "11", words := [31, 0], variant := .bech32m } := by
  have written :
      encode 11 { hrp := "11", words := [31, 0], variant := .bech32m } =
        .ok "111lqezj7uy" := by
    cbv
  exact ⟨written, (exists_encode_iff_and_decode _ _).2 _ written⟩

end NostrEntities.Bech32
