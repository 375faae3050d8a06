import NostrEntities.Proofs.Text.Case
import NostrEntities.Text.Utf8

/-!
# Bytes of texts

The UTF-8 form of a text is put together from the forms of its characters. Lower case
can be taken byte by byte, because the bytes of a character beyond ASCII are all beyond
ASCII themselves.
-/

namespace NostrEntities.Text

/-- Lower case form of a letter that is given by its byte. -/
def loweredByte (byte : UInt8) : UInt8 :=
  if 65 ≤ byte ∧ byte ≤ 90 then byte + 32 else byte

theorem utf8Bytes_eq_flatMap (text : String) :
    utf8Bytes text = text.toList.flatMap String.utf8EncodeChar := by
  rw [utf8Bytes, ← String.utf8Encode_toList, List.utf8Encode,
    List.toList_data_toByteArray]

/-- An ASCII character is a byte of its own. -/
theorem utf8EncodeChar_of_lt {character : Char} (ascii : character.toNat < 128) :
    String.utf8EncodeChar character = [character.toNat.toUInt8] := by
  have places : character.val.toNat = character.toNat := rfl
  rw [String.utf8EncodeChar]
  simp only [places]
  rw [if_pos (Nat.le_of_lt_succ ascii)]

/-- The bytes of ASCII characters, one each. -/
def asciiBytes (characters : List Char) : List UInt8 :=
  characters.map fun character => character.toNat.toUInt8

@[simp] theorem length_asciiBytes (characters : List Char) :
    (asciiBytes characters).length = characters.length :=
  List.length_map _

@[simp] theorem asciiBytes_append (first second : List Char) :
    asciiBytes (first ++ second) = asciiBytes first ++ asciiBytes second :=
  List.map_append

@[simp] theorem asciiBytes_cons (character : Char) (rest : List Char) :
    asciiBytes (character :: rest) = character.toNat.toUInt8 :: asciiBytes rest :=
  rfl

theorem utf8Bytes_of_ascii {text : String}
    (ascii : ∀ character ∈ text.toList, character.toNat < 128) :
    utf8Bytes text = asciiBytes text.toList := by
  rw [utf8Bytes_eq_flatMap, asciiBytes, List.map_eq_flatMap]
  exact List.flatMap_congr fun character member =>
    utf8EncodeChar_of_lt (ascii character member)

theorem toNat_asciiByte {character : Char} (ascii : character.toNat < 128) :
    character.toNat.toUInt8.toNat = character.toNat :=
  Nat.mod_eq_of_lt (by omega)

/-- A byte of a character is the character itself or is beyond ASCII. -/
theorem toNat_of_mem_utf8EncodeChar {character : Char} {byte : UInt8}
    (member : byte ∈ String.utf8EncodeChar character) :
    byte.toNat = character.toNat ∨ 128 ≤ byte.toNat := by
  by_cases ascii : character.toNat < 128
  · left
    rw [utf8EncodeChar_of_lt ascii, List.mem_singleton] at member
    rw [member]
    exact Nat.mod_eq_of_lt (by omega)
  · right
    have places : character.val.toNat = character.toNat := rfl
    rw [String.utf8EncodeChar] at member
    simp only [places] at member
    rw [if_neg (by omega)] at member
    -- Every byte is at least the mark of a leading or a following byte.
    split_ifs at member
    all_goals
      simp only [List.mem_cons, List.not_mem_nil, or_false] at member
      rcases member with rfl | rfl | rfl | rfl <;> rw [UInt8.toNat_ofNat'] <;> omega

/-- Lower case of a character is lower case of its bytes. -/
theorem utf8EncodeChar_toLower (character : Char) :
    String.utf8EncodeChar character.toLower =
      (String.utf8EncodeChar character).map loweredByte := by
  have range := isUpper_iff_toNat character
  by_cases upper : character.isUpper = true
  · have bounds := range.mp upper
    have lower := toNat_toLower character
    rw [if_pos upper] at lower
    have code : character.toNat.toUInt8.toNat = character.toNat :=
      Nat.mod_eq_of_lt (by omega)
    rw [utf8EncodeChar_of_lt (by omega), utf8EncodeChar_of_lt (by omega),
      List.map_singleton, lower, loweredByte, if_pos]
    · exact congrArg (fun byte => [byte]) (UInt8.ofNat_add character.toNat 32)
    · rwa [UInt8.le_iff_toNat_le, UInt8.le_iff_toNat_le, code]
  · have fixed : ∀ byte ∈ String.utf8EncodeChar character,
        loweredByte byte = id byte := by
      intro byte member
      rw [loweredByte, if_neg]
      · rfl
      · intro letter
        simp only [UInt8.le_iff_toNat_le, UInt8.reduceToNat] at letter
        rcases toNat_of_mem_utf8EncodeChar member with same | beyond
        · rw [same] at letter
          exact upper (range.mpr letter)
        · omega
    rw [Char.toLower_eq_of_not_isUpper upper, List.map_congr_left fixed, List.map_id]

theorem toNat_toLower_lt {character : Char} (ascii : character.toNat < 128) :
    character.toLower.toNat < 128 := by
  rw [toNat_toLower]
  split
  · rename_i upper
    have bounds := (isUpper_iff_toNat character).mp upper
    omega
  · exact ascii

theorem toNat_lt_of_mem_lowered {characters : List Char}
    (ascii : ∀ character ∈ characters, character.toNat < 128) :
    ∀ character ∈ lowered characters, character.toNat < 128 := by
  intro character member
  rcases List.mem_map.mp member with ⟨original, originalMember, rfl⟩
  exact toNat_toLower_lt (ascii original originalMember)

theorem map_loweredByte_asciiBytes {characters : List Char}
    (ascii : ∀ character ∈ characters, character.toNat < 128) :
    (asciiBytes characters).map loweredByte = asciiBytes (lowered characters) := by
  rw [asciiBytes, asciiBytes, lowered, List.map_map, List.map_map]
  refine List.map_congr_left fun character member => ?_
  have same := utf8EncodeChar_toLower character
  rw [utf8EncodeChar_of_lt (toNat_toLower_lt (ascii character member)),
    utf8EncodeChar_of_lt (ascii character member), List.map_singleton] at same
  exact (List.singleton_inj.mp same).symm

/-- The bytes of the lower case form are the lower case forms of the bytes. -/
theorem utf8Bytes_toLower (text : String) :
    utf8Bytes text.toLower = (utf8Bytes text).map loweredByte := by
  rw [utf8Bytes_eq_flatMap, utf8Bytes_eq_flatMap, String.toLower, String.toList_map,
    List.flatMap_map, List.map_flatMap]
  exact List.flatMap_congr fun character _ => utf8EncodeChar_toLower character

end NostrEntities.Text
