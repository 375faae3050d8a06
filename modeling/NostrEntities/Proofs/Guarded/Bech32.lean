import NostrEntities.Proofs.Bech32.RoundTrip
import NostrEntities.Proofs.Guarded.Checksum

/-!
# Reading a checksummed text on a machine

A machine cuts the bytes of the text where it finds the last separator, and looks each
symbol up in a table with one entry for each ASCII character. Both are in range since
the text is searched for other characters first. The checksum can be taken off the words
because the data part is as long as the checksum at least.
-/

namespace NostrEntities.Bech32

open Guarded

/-- The characters of bytes that are one character each. -/
def charactersOf (bytes : List UInt8) : List Char :=
  bytes.map Char.ofUInt8

/-- The position of the last occurrence of a byte. -/
def lastPosition? (byte : UInt8) : List UInt8 → Option Nat
  | [] => none
  | first :: rest =>
      match lastPosition? byte rest with
      | some position => some (position + 1)
      | none => if first = byte then some 0 else none

/-- The two parts of a text as they are written. -/
def guardedSeparate (bytes : List UInt8) :
    Guarded Error (List UInt8 × List UInt8) :=
  match lastPosition? separator.toNat.toUInt8 bytes with
  | none => fail .missingSeparator
  | some position =>
      if position = 0 then fail .emptyHrp
      else do
        let (hrp, rest) ← cut bytes position
        let data ← pieceFrom rest 1
        return (hrp, data)

/-- For each ASCII character the word that it stands for, or -1. -/
def reverseTable : List Int8 :=
  [-1, -1, -1, -1, -1, -1, -1, -1, -1, -1, -1, -1, -1, -1, -1, -1,
    -1, -1, -1, -1, -1, -1, -1, -1, -1, -1, -1, -1, -1, -1, -1, -1,
    -1, -1, -1, -1, -1, -1, -1, -1, -1, -1, -1, -1, -1, -1, -1, -1,
    15, -1, 10, 17, 21, 20, 26, 30, 7, 5, -1, -1, -1, -1, -1, -1,
    -1, 29, -1, 24, 13, 25, 9, 8, 23, -1, 18, 22, 31, 27, 19, -1,
    1, 0, 3, 16, 11, 28, 12, 14, 6, 4, 2, -1, -1, -1, -1, -1,
    -1, 29, -1, 24, 13, 25, 9, 8, 23, -1, 18, 22, 31, 27, 19, -1,
    1, 0, 3, 16, 11, 28, 12, 14, 6, 4, 2, -1, -1, -1, -1, -1]

/-- Look up symbols, and pass their words through the register of the checksum. -/
def readSymbols : UInt32 → List UInt8 → Guarded Error (List UInt8 × UInt32)
  | register, [] => pure ([], register)
  | register, byte :: rest => do
      let entry ← element reverseTable byte.toNat
      if entry = -1 then fail (.invalidCharacter (Char.ofUInt8 byte))
      else do
        let stepped ← guardedStep register
        let (words, final) ←
          readSymbols (stepped ^^^ entry.toInt32.toUInt32) rest
        return (entry.toUInt8 :: words, final)

/-- Match the residue of a text against the variants, and take the checksum off its
words. -/
def guardedVerify (hrp words : List UInt8) (final : UInt32) : Guarded Error Parts :=
  match variantOfRegister? final with
  | none => fail .invalidChecksum
  | some variant => do
      let kept ← subtract words.length checksumLength
      return {
        hrp := String.ofList (charactersOf hrp)
        words := words.take kept
        variant }

/-- Read the two parts of a text of the given length. -/
def guardedReadParts (size : Nat) (hrp data : List UInt8) :
    Guarded Error Parts := do
  Guarded.ofExcept (requireLongEnough checksumLength data.length size)
  Guarded.ofExcept (requireAll isHrpCharacter (charactersOf hrp))
  let start ← guardedResidue (hrp.map Text.loweredByte)
  let (words, final) ← readSymbols start data
  Guarded.ofExcept (requireSingleCase (charactersOf (hrp ++ data)))
  guardedVerify (hrp.map Text.loweredByte) words final

/-- Read a text of at most `limit` bytes. -/
def guardedDecode (limit : Nat) (text : String) : Guarded Error Parts := do
  let bytes := Text.utf8Bytes text
  Guarded.ofExcept (requireWithin limit bytes.length)
  Guarded.ofExcept (requireLongEnough minimumLength bytes.length bytes.length)
  Guarded.ofExcept (requireAll isAscii text.toList)
  let (hrp, data) ← guardedSeparate bytes
  guardedReadParts bytes.length hrp data

variable {characters hrp data : List Char}

/-! ## Characters and their bytes -/

theorem ofUInt8_asciiByte {character : Char} (ascii : character.toNat < 128) :
    Char.ofUInt8 character.toNat.toUInt8 = character :=
  Char.toNat_inj.mp (Text.toNat_asciiByte ascii)

theorem charactersOf_asciiBytes
    (ascii : ∀ character ∈ characters, character.toNat < 128) :
    charactersOf (Text.asciiBytes characters) = characters := by
  rw [charactersOf, Text.asciiBytes, List.map_map]
  have same : ∀ character ∈ characters,
      (Char.ofUInt8 ∘ fun character => character.toNat.toUInt8) character =
        id character := by
    intro character member
    exact ofUInt8_asciiByte (ascii character member)
  rw [List.map_congr_left same, List.map_id]

/-! ## Where the text is cut -/

theorem lastPosition?_asciiBytes
    (ascii : ∀ character ∈ characters, character.toNat < 128) :
    lastPosition? separator.toNat.toUInt8 (Text.asciiBytes characters) =
      (splitAtSeparator? characters).map fun parts => parts.1.length := by
  induction characters with
  | nil => rfl
  | cons character rest ih =>
      have others := ih fun other member => ascii other (List.mem_cons_of_mem _ member)
      have same : character.toNat.toUInt8 = separator.toNat.toUInt8 ↔
          character = separator := by
        rw [← UInt8.toNat_inj, Text.toNat_asciiByte (ascii character List.mem_cons_self),
          ← Char.toNat_inj]
        rfl
      rw [Text.asciiBytes_cons, lastPosition?, others, splitAtSeparator?]
      cases splitAtSeparator? rest with
      | some parts => rfl
      | none =>
          by_cases found : character = separator
          · simp [found]
          · simp [found, same]

theorem guardedSeparate_asciiBytes
    (ascii : ∀ character ∈ characters, character.toNat < 128) :
    guardedSeparate (Text.asciiBytes characters) =
      Guarded.ofExcept ((separate characters).map fun parts =>
        (Text.asciiBytes parts.1, Text.asciiBytes parts.2)) := by
  rw [guardedSeparate, lastPosition?_asciiBytes ascii, separate]
  cases parted : splitAtSeparator? characters with
  | none => rfl
  | some parts =>
      rcases parts with ⟨hrp, data⟩
      rcases splitAtSeparator?_eq_some_iff.mp parted with ⟨rfl, -⟩
      rw [Text.asciiBytes_append, Text.asciiBytes_cons]
      cases hrp with
      | nil => rfl
      | cons first rest =>
          have begins : continuesCharacter separator.toNat.toUInt8 = false := by
            decide
          have position : (first :: rest).length =
              (Text.asciiBytes (first :: rest)).length :=
            (Text.length_asciiBytes _).symm
          have within : 1 ≤
              (separator.toNat.toUInt8 :: Text.asciiBytes data).length :=
            Nat.le_add_left 1 _
          simp only [Option.map_some]
          rw [if_neg (by simp), position, cut_append_eq_pure _ _ begins,
            Guarded.pure_bind]
          dsimp only
          rw [pieceFrom_eq_pure within, Guarded.pure_bind]
          rfl

/-! ## Symbols -/

/-- The table holds the word of every symbol, and no other character has one. -/
theorem reverseTable_eq_some (character : Char) (ascii : character.toNat < 128) :
    reverseTable[character.toNat]? =
      some ((Word.ofSymbol? character).elim (-1) fun word => word.toByte.toInt8) := by
  have table : ∀ code : Fin 128, reverseTable[code.val]? =
      some ((Word.ofSymbol? (Char.ofNat code.val)).elim (-1) fun word =>
        word.toByte.toInt8) := by
    decide +kernel
  have entry := table ⟨character.toNat, ascii⟩
  rwa [Char.ofNat_toNat] at entry

/-- What the table holds for a word can be told from -1 and is the word again. -/
theorem entry_of_word (word : Word) :
    word.toByte.toInt8 ≠ -1 ∧ word.toByte.toInt8.toUInt8 = word.toByte ∧
      word.toByte.toInt8.toInt32.toUInt32 = word.widen := by
  revert word
  decide

theorem readSymbols_of_symbol {character : Char} {word : Word}
    (read : Word.ofSymbol? character = some word) (residue : Residue)
    (rest : List UInt8) :
    readSymbols residue.widen (character.toNat.toUInt8 :: rest) = do
      let (words, final) ← readSymbols (residue.absorb word).widen rest
      return (word.toByte :: words, final) := by
  have ascii : character.toNat < 128 := by
    simpa [isAscii] using
      isAscii_of_isSymbol (Option.isSome_iff_exists.mpr ⟨word, read⟩)
  have entry := reverseTable_eq_some character ascii
  rw [read, Option.elim_some] at entry
  rcases entry_of_word word with ⟨known, byte, register⟩
  rw [readSymbols, Text.toNat_asciiByte ascii, element_eq_pure entry,
    Guarded.pure_bind, if_neg known, guardedStep_widen, Guarded.pure_bind, register,
    ← Residue.widen_xor_word, byte]
  rfl

theorem readSymbols_of_other {character : Char} (ascii : character.toNat < 128)
    (other : ¬ Word.isSymbol character = true) (residue : Residue)
    (rest : List UInt8) :
    readSymbols residue.widen (character.toNat.toUInt8 :: rest) =
      fail (.invalidCharacter character) := by
  have entry := reverseTable_eq_some character ascii
  rw [Option.not_isSome_iff_eq_none.mp other, Option.elim_none] at entry
  rw [readSymbols, Text.toNat_asciiByte ascii, element_eq_pure entry,
    Guarded.pure_bind, if_pos rfl, ofUInt8_asciiByte ascii]

theorem readSymbols_eq_pure
    (symbols : ∀ character ∈ data, Word.isSymbol character = true)
    (residue : Residue) :
    readSymbols residue.widen (Text.asciiBytes data) =
      pure ((Word.ofSymbols data).map Word.toByte,
        (residue.absorbAll (Word.ofSymbols data)).widen) := by
  induction data generalizing residue with
  | nil => rfl
  | cons character rest ih =>
      rcases Option.isSome_iff_exists.mp (symbols character List.mem_cons_self) with
        ⟨word, read⟩
      have others := ih
        (fun other member => symbols other (List.mem_cons_of_mem _ member))
        (residue.absorb word)
      have words : Word.ofSymbols (character :: rest) = word :: Word.ofSymbols rest :=
        List.filterMap_cons_some read
      rw [Text.asciiBytes_cons, readSymbols_of_symbol read, others,
        Guarded.pure_bind, words]
      rfl

theorem readSymbols_of_find?
    (ascii : ∀ character ∈ data, character.toNat < 128) {offender : Char}
    (found : data.find? (fun character => !Word.isSymbol character) = some offender)
    (residue : Residue) :
    readSymbols residue.widen (Text.asciiBytes data) =
      fail (.invalidCharacter offender) := by
  induction data generalizing residue with
  | nil => cases found
  | cons character rest ih =>
      rw [Text.asciiBytes_cons]
      by_cases symbol : Word.isSymbol character = true
      · rw [List.find?_cons_of_neg (by simp [symbol])] at found
        rcases Option.isSome_iff_exists.mp symbol with ⟨word, read⟩
        rw [readSymbols_of_symbol read,
          ih (fun other member => ascii other (List.mem_cons_of_mem _ member)) found,
          fail_bind]
      · rw [List.find?_cons_of_pos (by simp [symbol])] at found
        rw [← Option.some.inj found]
        exact readSymbols_of_other (ascii character List.mem_cons_self) symbol _ _

/-! ## The whole text -/

theorem guardedVerify_asciiBytes {words : List Word}
    (ascii : ∀ character ∈ hrp, character.toNat < 128)
    (enough : checksumLength ≤ words.length) :
    guardedVerify (Text.asciiBytes hrp) (words.map Word.toByte)
        (residue hrp words).widen =
      Guarded.ofExcept (verify hrp words) := by
  rw [guardedVerify, verify, variantOfRegister?_widen, charactersOf_asciiBytes ascii,
    List.length_map]
  cases Variant.ofResidue? (residue hrp words) with
  | none => rfl
  | some variant =>
      dsimp only
      rw [subtract_eq_pure enough, Guarded.pure_bind, ← List.map_take]
      rfl

/-- Both readers of the two parts check the same, one after the other. -/
theorem guardedReadParts_asciiBytes
    (hrpAscii : ∀ character ∈ hrp, character.toNat < 128)
    (dataAscii : ∀ character ∈ data, character.toNat < 128) (size : Nat) :
    guardedReadParts size (Text.asciiBytes hrp) (Text.asciiBytes data) =
      Guarded.ofExcept (do
        requireLongEnough checksumLength data.length size
        requireAll isHrpCharacter hrp
        requireAll Word.isSymbol data
        requireSingleCase (hrp ++ data)
        verify (Text.lowered hrp) (Word.ofSymbols data)) := by
  have loweredAscii := Text.toNat_lt_of_mem_lowered hrpAscii
  have bothAscii := List.forall_mem_append.mpr ⟨hrpAscii, dataAscii⟩
  rw [guardedReadParts, Text.length_asciiBytes, charactersOf_asciiBytes hrpAscii,
    Text.map_loweredByte_asciiBytes hrpAscii, guardedResidue_asciiBytes loweredAscii,
    ← Text.asciiBytes_append, charactersOf_asciiBytes bothAscii]
  refine bind_eq_ofExcept rfl fun _ longEnough => ?_
  refine bind_eq_ofExcept rfl fun _ _ => ?_
  rw [Guarded.pure_bind]
  cases offender : data.find? (fun character => !Word.isSymbol character) with
  | some character =>
      rw [readSymbols_of_find? dataAscii offender, fail_bind, requireAll, offender]
      rfl
  | none =>
      have symbols : requireAll Word.isSymbol data = .ok () := by
        rw [requireAll, offender]
      have allSymbols := requireAll_eq_ok_iff.mp symbols
      have enough : checksumLength ≤ (Word.ofSymbols data).length := by
        rw [length_ofSymbols allSymbols]
        exact requireLongEnough_eq_ok_iff.mp longEnough
      rw [readSymbols_eq_pure allSymbols, Guarded.pure_bind, symbols, Except.ok_bind]
      refine bind_eq_ofExcept rfl fun _ _ => ?_
      rw [← residue_append, List.nil_append]
      exact guardedVerify_asciiBytes loweredAscii enough

/-- A machine reads every text without any fault, and its result is that of reading. -/
theorem guardedDecode_eq (limit : Nat) (text : String) :
    guardedDecode limit text = Guarded.ofExcept (decode limit text) := by
  rw [guardedDecode, decode, Text.length_utf8Bytes]
  refine bind_eq_ofExcept rfl fun _ _ => ?_
  refine bind_eq_ofExcept rfl fun _ _ => ?_
  refine bind_eq_ofExcept rfl fun _ isAsciiText => ?_
  have ascii : ∀ character ∈ text.toList, character.toNat < 128 := by
    simpa [isAscii] using requireAll_eq_ok_iff.mp isAsciiText
  rw [Text.utf8Bytes_of_ascii ascii, guardedSeparate_asciiBytes ascii]
  cases separated : separate text.toList with
  | error cause => rfl
  | ok parts =>
      rcases parts with ⟨hrp, data⟩
      have whole := (separate_eq_ok_iff.mp separated).1
      rw [whole] at ascii
      rw [Except.map, ofExcept_ok, Guarded.pure_bind, Except.ok_bind]
      rcases List.forall_mem_append.mp ascii with ⟨hrpAscii, restAscii⟩
      exact guardedReadParts_asciiBytes hrpAscii (List.forall_mem_cons.mp restAscii).2
        text.utf8ByteSize

end NostrEntities.Bech32
