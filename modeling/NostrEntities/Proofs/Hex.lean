import NostrEntities.Key
import NostrEntities.Proofs.Outcome
import NostrEntities.Proofs.Text.Utf8

/-!
# What reads as hexadecimal

A byte reads as a digit exactly when its lower case form is a digit that is written.
Hence a text reads as some bytes exactly when its lower case form is the hexadecimal
form of the bytes: nothing but case is forgotten, and nothing written is refused.
-/

namespace NostrEntities.Hex

variable {index count : Nat} {code value high low byte : UInt8}
variable {codes bytes : List UInt8}

/-! ## Digits -/

/-- The byte of a digit as it is written. -/
def digitByte (value : Nat) : UInt8 :=
  (Nat.digitChar value).toNat.toUInt8

/-- The two digits of a byte, as bytes. -/
def digitBytes (byte : UInt8) : List UInt8 :=
  [digitByte (byte.toNat / 16), digitByte (byte.toNat % 16)]

theorem digitValue?_digitByte (small : value < 16) :
    digitValue? (digitByte value.toNat) = some value := by
  revert value
  decide +kernel

theorem digitValue?_loweredByte (code : UInt8) :
    digitValue? (Text.loweredByte code) = digitValue? code := by
  revert code
  decide +kernel

/-- What reads as a digit is the digit that is written for its value, in either
case. -/
theorem digitValue?_eq_some_iff :
    digitValue? code = some value ↔
      value < 16 ∧ Text.loweredByte code = digitByte value.toNat := by
  constructor
  · intro digit
    -- The check runs over the codes alone: the value is what the reader gives.
    have written : ∀ code : UInt8, (digitValue? code).all (fun value =>
        value < 16 && Text.loweredByte code == digitByte value.toNat) = true := by
      decide +kernel
    have thisOne := written code
    rw [digit] at thisOne
    simpa using thisOne
  · intro written
    rw [← digitValue?_loweredByte, written.2, digitValue?_digitByte written.1]

theorem readDigit_eq_ok_iff :
    readDigit index code = .ok value ↔
      value < 16 ∧ Text.loweredByte code = digitByte value.toNat := by
  rw [← digitValue?_eq_some_iff, readDigit]
  cases digitValue? code <;> simp

/-! ## Pairs of digits -/

theorem utf8Bytes_digits (byte : UInt8) :
    (digits byte).flatMap String.utf8EncodeChar = digitBytes byte := by
  revert byte
  decide +kernel

theorem utf8Bytes_encode (bytes : List UInt8) :
    Text.utf8Bytes (encode bytes) = bytes.flatMap digitBytes := by
  rw [Text.utf8Bytes_eq_flatMap, encode, String.toList_ofList, List.flatMap_assoc]
  exact List.flatMap_congr fun byte _ => utf8Bytes_digits byte

theorem length_utf8Bytes_encode (bytes : List UInt8) :
    (Text.utf8Bytes (encode bytes)).length = 2 * bytes.length := by
  simp [utf8Bytes_encode, digitBytes, Nat.mul_comm]

theorem toNat_of_halves (highSmall : high < 16) (lowSmall : low < 16) :
    (high * 16 + low).toNat = 16 * high.toNat + low.toNat := by
  have highBound : high.toNat < 16 := UInt8.lt_iff_toNat_lt.mp highSmall
  have lowBound : low.toNat < 16 := UInt8.lt_iff_toNat_lt.mp lowSmall
  simp only [UInt8.toNat_add, UInt8.toNat_mul, UInt8.reduceToNat]
  omega

theorem exists_halves (byte : UInt8) :
    ∃ high low : UInt8, high < 16 ∧ low < 16 ∧ high * 16 + low = byte := by
  have highSmall : byte / 16 < 16 := by
    rw [UInt8.lt_iff_toNat_lt, UInt8.toNat_div]
    exact Nat.div_lt_of_lt_mul byte.toNat_lt
  have lowSmall : byte % 16 < 16 := by
    rw [UInt8.lt_iff_toNat_lt, UInt8.toNat_mod]
    exact Nat.mod_lt _ (by decide)
  refine ⟨byte / 16, byte % 16, highSmall, lowSmall, ?_⟩
  apply UInt8.toNat_inj.mp
  rw [toNat_of_halves highSmall lowSmall, UInt8.toNat_div, UInt8.toNat_mod]
  exact Nat.div_add_mod _ _

/-- A byte is written as the digits of its halves. -/
theorem digitBytes_of_halves (highSmall : high < 16) (lowSmall : low < 16) :
    digitBytes (high * 16 + low) = [digitByte high.toNat, digitByte low.toNat] := by
  have lowBound : low.toNat < 16 := UInt8.lt_iff_toNat_lt.mp lowSmall
  rw [digitBytes, toNat_of_halves highSmall lowSmall, Nat.mul_add_div (by decide),
    Nat.mul_add_mod, Nat.div_eq_of_lt lowBound, Nat.mod_eq_of_lt lowBound,
    Nat.add_zero]

/-- Digits read as bytes exactly when their lower case forms are written for the
bytes. -/
theorem readPairs_eq_ok_iff :
    readPairs index codes = .ok bytes ↔
      codes.map Text.loweredByte = bytes.flatMap digitBytes := by
  fun_induction readPairs index codes generalizing bytes with
  | case1 index =>
      cases bytes with
      | nil => simp
      | cons byte rest => simp [digitBytes]
  | case2 index code =>
      -- A single digit is refused, and no byte is written with one.
      cases bytes with
      | nil => simp
      | cons byte rest => simp [digitBytes]
  | case3 index high low rest ih =>
      simp only [Except.bind_eq_ok_iff, Except.pure_eq_ok_iff, readDigit_eq_ok_iff, ih]
      constructor
      · intro read
        rcases read with ⟨highValue, ⟨highSmall, highWritten⟩, lowValue,
          ⟨lowSmall, lowWritten⟩, others, restWritten, rfl⟩
        rw [List.map_cons, List.map_cons, List.flatMap_cons,
          digitBytes_of_halves highSmall lowSmall, highWritten, lowWritten,
          restWritten]
        rfl
      · intro written
        cases bytes with
        | nil => cases written
        | cons byte others =>
            rcases exists_halves byte with
              ⟨highValue, lowValue, highSmall, lowSmall, rfl⟩
            rw [List.flatMap_cons, digitBytes_of_halves highSmall lowSmall] at written
            simp only [List.map_cons, List.cons_append, List.nil_append,
              List.cons.injEq] at written
            rcases written with ⟨highWritten, lowWritten, restWritten⟩
            exact ⟨highValue, ⟨highSmall, highWritten⟩, lowValue,
              ⟨lowSmall, lowWritten⟩, others, restWritten, rfl⟩

/-- A text in bytes reads as hexadecimal exactly when its lower case form is written
for the result. -/
theorem decode_eq_ok_iff :
    decode codes = .ok bytes ↔
      codes.map Text.loweredByte = Text.utf8Bytes (encode bytes) := by
  rw [decode]
  split
  · rename_i odd
    simp only [reduceCtorEq, false_iff]
    intro same
    have lengths := congrArg List.length same
    rw [List.length_map, length_utf8Bytes_encode] at lengths
    omega
  · rw [readPairs_eq_ok_iff, utf8Bytes_encode]

/-- What is written is in lower case already. -/
theorem map_loweredByte_digitBytes (byte : UInt8) :
    (digitBytes byte).map Text.loweredByte = digitBytes byte := by
  revert byte
  decide +kernel

theorem toLower_encode (bytes : List UInt8) :
    (encode bytes).toLower = encode bytes := by
  apply Text.utf8Bytes_injective
  rw [Text.utf8Bytes_toLower, utf8Bytes_encode, List.map_flatMap]
  exact List.flatMap_congr fun byte _ => map_loweredByte_digitBytes byte

/-- What is written is read back. -/
theorem decode_encode (bytes : List UInt8) :
    decode (Text.utf8Bytes (encode bytes)) = .ok bytes := by
  rw [decode_eq_ok_iff, ← Text.utf8Bytes_toLower, toLower_encode]

theorem decodeExactly_eq_ok_iff :
    decodeExactly count codes = .ok bytes ↔
      codes.map Text.loweredByte = Text.utf8Bytes (encode bytes) ∧
        bytes.length = count := by
  simp only [decodeExactly, Except.bind_eq_ok_iff, decode_eq_ok_iff]
  constructor
  · rintro ⟨contents, read, checked⟩
    split at checked
    · rename_i length
      cases checked
      exact ⟨read, length⟩
    · cases checked
  · rintro ⟨read, length⟩
    refine ⟨bytes, read, ?_⟩
    rw [if_pos length]
    rfl

end NostrEntities.Hex

namespace NostrEntities.Bytes32

theorem toLower_toHex (value : Bytes32) : value.toHex.toLower = value.toHex :=
  Hex.toLower_encode value.bytes

/-- A text reads as 32 bytes exactly when its lower case form is their hexadecimal
form. -/
theorem ofHex_eq_ok_iff {text : String} {value : Bytes32} :
    ofHex text = .ok value ↔ text.toLower = value.toHex := by
  have exactly : Hex.decodeExactly 32 (Text.utf8Bytes text) = .ok value.bytes ↔
      text.toLower = value.toHex := by
    rw [Hex.decodeExactly_eq_ok_iff, and_iff_left value.length_bytes,
      ← Text.utf8Bytes_toLower, toHex]
    exact ⟨Text.utf8Bytes_injective, congrArg Text.utf8Bytes⟩
  rw [← exactly, ofHex]
  split
  · rename_i bytes read
    simp only [read, Except.ok.injEq, Bytes32.ext_iff]
  · rename_i cause failed
    simp only [failed, reduceCtorEq]

end NostrEntities.Bytes32
