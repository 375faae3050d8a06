import NostrEntities.Bech32.Codec
import NostrEntities.Proofs.Text.Case

/-!
# Symbols and characters

A character is a symbol of a word exactly when its lower case form is the symbol
that is written for the word. Hence reading the symbols of a text forgets nothing
but their case. The other tests on characters do not see case at all.
-/

namespace NostrEntities.Bech32

namespace Word

theorem isUpper_symbol (word : Word) : word.symbol.isUpper = false := by
  revert word
  decide

theorem isAscii_symbol (word : Word) : isAscii word.symbol = true := by
  revert word
  decide

theorem toLower_symbol (word : Word) : word.symbol.toLower = word.symbol :=
  Char.toLower_eq_of_not_isUpper (by simp [isUpper_symbol])

/-- A character stands for a word when its lower case form is written for it. -/
theorem ofSymbol?_eq_some_iff {character : Char} {word : Word} :
    ofSymbol? character = some word ↔ character.toLower = word.symbol := by
  constructor
  · intro read
    rw [ofSymbol?] at read
    rcases Option.map_eq_some_iff.mp read with ⟨index, found, rfl⟩
    rcases List.idxOf?_eq_some_iff.mp found with ⟨inBounds, selected, -⟩
    have small : (BitVec.ofNat 5 index).toNat = index := by
      rw [BitVec.toNat_ofNat]
      exact Nat.mod_eq_of_lt inBounds
    simp only [symbol, small, List.get_eq_getElem]
    exact selected.symm
  · intro same
    have read := ofSymbol?_symbol word
    rwa [ofSymbol?, toLower_symbol, ← same] at read

theorem ofSymbol?_toLower (character : Char) :
    ofSymbol? character.toLower = ofSymbol? character := by
  simp [ofSymbol?]

theorem ofSymbols_lowered (characters : List Char) :
    ofSymbols (Text.lowered characters) = ofSymbols characters := by
  simp only [ofSymbols, Text.lowered, List.filterMap_map]
  congr 1
  funext character
  exact ofSymbol?_toLower character

/-- Writing the words of some symbols writes the symbols in lower case. -/
theorem map_symbol_ofSymbols {characters : List Char}
    (symbols : ∀ character ∈ characters, isSymbol character = true) :
    (ofSymbols characters).map symbol = Text.lowered characters := by
  induction characters with
  | nil => rfl
  | cons character rest ih =>
      rcases Option.isSome_iff_exists.mp (symbols character (by simp)) with
        ⟨word, read⟩
      have others := ih fun other member => symbols other (by simp [member])
      rw [ofSymbols, List.filterMap_cons_some read, List.map_cons,
        Text.lowered_cons, ofSymbol?_eq_some_iff.mp read]
      exact congrArg (word.symbol :: ·) others

/-! ## Words as bytes -/

theorem toByte_lt (word : Word) : word.toByte < 32 := by
  revert word
  decide

theorem toByte_ofByte {byte : UInt8} (small : byte < 32) :
    (ofByte byte).toByte = byte := by
  apply UInt8.toNat_inj.mp
  have inBounds : byte.toNat < 32 := UInt8.lt_iff_toNat_lt.mp small
  simp only [ofByte, toByte, UInt8.toNat, BitVec.toNat_setWidth] at *
  omega

theorem map_toByte_ofByte {bytes : List UInt8}
    (small : ∀ byte ∈ bytes, byte < 32) :
    (bytes.map ofByte).map toByte = bytes := by
  have inverse : ∀ byte ∈ bytes, (toByte ∘ ofByte) byte = id byte := by
    intro byte member
    exact toByte_ofByte (small byte member)
  rw [List.map_map, List.map_congr_left inverse, List.map_id]

/-- Bytes are words exactly when they are the bytes of words. -/
theorem ofBytes_eq_ok_iff {bytes : List UInt8} {words : List Word} :
    ofBytes bytes = .ok words ↔ bytes = words.map toByte := by
  constructor
  · intro read
    rw [ofBytes] at read
    split at read
    · cases read
    · rename_i absent
      cases read
      have small : ∀ byte ∈ bytes, byte < 32 := by
        intro byte member
        simpa using List.find?_eq_none.mp absent byte member
      exact (map_toByte_ofByte small).symm
  · intro same
    subst same
    have absent : (words.map toByte).find? (32 ≤ ·) = none := by
      rw [List.find?_eq_none]
      intro byte member
      rcases List.mem_map.mp member with ⟨word, -, rfl⟩
      simpa using toByte_lt word
    have inverse : ofByte ∘ toByte = id := funext ofByte_toByte
    simp [ofBytes, absent, inverse]

theorem exists_map_toByte_iff {bytes : List UInt8} :
    (∃ words : List Word, bytes = words.map toByte) ↔
      ∀ byte ∈ bytes, byte < 32 := by
  constructor
  · intro written byte member
    rcases written with ⟨words, rfl⟩
    rcases List.mem_map.mp member with ⟨word, -, rfl⟩
    exact toByte_lt word
  · intro small
    exact ⟨bytes.map ofByte, (map_toByte_ofByte small).symm⟩

end Word

theorem length_ofSymbols {characters : List Char}
    (symbols : ∀ character ∈ characters, Word.isSymbol character = true) :
    (Word.ofSymbols characters).length = characters.length := by
  simpa using congrArg List.length (Word.map_symbol_ofSymbols symbols)

/-! ## Tests on characters and case -/

theorem isHrpCharacter_toLower (character : Char) :
    isHrpCharacter character.toLower = isHrpCharacter character := by
  have range := Text.isUpper_iff_toNat character
  simp only [isHrpCharacter, Text.toNat_toLower]
  split
  · rename_i upper
    have bounds := range.mp upper
    rw [Bool.eq_iff_iff]
    simp only [Bool.and_eq_true, decide_eq_true_eq]
    omega
  · rfl

theorem toLower_eq_separator_iff {character : Char} :
    character.toLower = separator ↔ character = separator := by
  constructor
  · intro same
    by_cases upper : character.isUpper = true
    · have isLower : character.toLower.isLower = true := by
        simp [Char.isAlpha, upper]
      rw [same] at isLower
      cases isLower
    · rwa [Char.toLower_eq_of_not_isUpper upper] at same
  · intro same
    rw [same]
    rfl

theorem isHrpCharacter_of_mem_lowered {hrp : List Char}
    (valid : ∀ character ∈ hrp, isHrpCharacter character = true) :
    ∀ character ∈ Text.lowered hrp, isHrpCharacter character = true := by
  intro character member
  rcases List.mem_map.mp member with ⟨original, inHrp, rfl⟩
  rw [isHrpCharacter_toLower]
  exact valid original inHrp

theorem not_isSymbol_separator : Word.isSymbol separator = false := by decide

theorem separator_not_mem_of_isSymbol {data : List Char}
    (symbols : ∀ character ∈ data, Word.isSymbol character = true) :
    separator ∉ data := by
  intro member
  have symbol := symbols separator member
  rw [not_isSymbol_separator] at symbol
  cases symbol

theorem isAscii_separator : isAscii separator = true := by decide

theorem isAscii_of_isHrpCharacter {character : Char}
    (valid : isHrpCharacter character = true) : isAscii character = true := by
  simp only [isHrpCharacter, isAscii, Bool.and_eq_true, decide_eq_true_eq] at *
  omega

theorem toNat_lt_of_isHrpCharacter {hrp : List Char}
    (valid : ∀ character ∈ hrp, isHrpCharacter character = true) :
    ∀ character ∈ hrp, character.toNat < 128 := by
  intro character member
  exact of_decide_eq_true (isAscii_of_isHrpCharacter (valid character member))

theorem isAscii_of_isSymbol {character : Char}
    (valid : Word.isSymbol character = true) : isAscii character = true := by
  rcases Option.isSome_iff_exists.mp valid with ⟨word, read⟩
  have lower := Word.ofSymbol?_eq_some_iff.mp read
  have ascii := Word.isAscii_symbol word
  have places := Text.toNat_toLower character
  rw [← lower] at ascii
  simp only [isAscii, decide_eq_true_eq] at *
  split at places <;> omega

/-- Each ASCII character is a single byte. -/
theorem utf8ByteSize_ofList {characters : List Char}
    (ascii : ∀ character ∈ characters, isAscii character = true) :
    (String.ofList characters).utf8ByteSize = characters.length := by
  induction characters with
  | nil => rfl
  | cons character rest ih =>
      have single : character.utf8Size = 1 := by
        rw [Char.utf8Size_eq_one_iff, UInt32.le_iff_toNat_le]
        have below := ascii character (by simp)
        simp only [isAscii, decide_eq_true_eq] at below
        exact Nat.le_of_lt_succ below
      have others := ih fun other member => ascii other (by simp [member])
      rw [String.ofList_cons, String.utf8ByteSize_append,
        String.utf8ByteSize_singleton, single, others, List.length_cons,
        Nat.add_comm]

theorem utf8ByteSize_eq_length {text : String}
    (ascii : ∀ character ∈ text.toList, isAscii character = true) :
    text.utf8ByteSize = text.toList.length := by
  rw [← utf8ByteSize_ofList ascii, String.ofList_toList]

end NostrEntities.Bech32
