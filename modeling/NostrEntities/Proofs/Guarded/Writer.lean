import NostrEntities.Proofs.Bech32.RoundTrip
import NostrEntities.Proofs.Guarded.Checksum

/-!
# Writing a checksummed text on a machine

A machine looks the symbol of each word up in the alphabet and passes the word through
the register of the checksum in the same round. For the checksum it makes room six times,
adds the constant of the variant, and moves one digit after the other to the low end of
the register.
-/

namespace NostrEntities.Bech32

open Guarded

/-- Look up the symbols of words, and pass the words through the register of the
checksum. -/
def writeSymbols : UInt32 → List UInt8 → Guarded Error (List Char × UInt32)
  | register, [] => pure ([], register)
  | register, byte :: rest =>
      if byte >>> 5 ≠ 0 then fail (.invalidWord byte)
      else do
        let stepped ← guardedStep register
        let symbol ← element Word.alphabet byte.toNat
        let (symbols, final) ← writeSymbols (stepped ^^^ byte.toUInt32) rest
        return (symbol :: symbols, final)

/-- Make room for a number of words, one after the other. -/
def guardedSteps : Nat → UInt32 → Guarded Error UInt32
  | 0, register => pure register
  | rounds + 1, register => do
      let stepped ← guardedStep register
      guardedSteps rounds stepped

/-- The symbols of the digits of a register, the one for each of the given rounds. -/
def writeDigits (register : UInt32) : List Nat → Guarded Error (List Char)
  | [] => pure []
  | round :: rest => do
      let digit ← subtract 5 round
      let shifted ← shiftRight register (digit * 5)
      let symbol ← element Word.alphabet (shifted &&& 0x1f).toNat
      let symbols ← writeDigits register rest
      return symbol :: symbols

/-- Write a text of at most `limit` bytes. -/
def guardedEncode (limit : Nat) (parts : Parts) : Guarded Error String := do
  let bytes := Text.utf8Bytes parts.hrp
  Guarded.ofExcept (requireNonempty parts.hrp.toList)
  Guarded.ofExcept (requireWritable parts.hrp.toList)
  Guarded.ofExcept
    (requireWithin limit (bytes.length + 1 + parts.words.length + checksumLength))
  let start ← guardedResidue bytes
  let (symbols, taken) ← writeSymbols start parts.words
  let final ← guardedSteps checksumLength taken
  let check ← writeDigits (final ^^^ parts.variant.constant.widen)
    (List.range checksumLength)
  return String.ofList (parts.hrp.toList ++ separator :: (symbols ++ check))

/-! ## Symbols -/

theorem element_alphabet (word : Word) :
    (element Word.alphabet word.toNat : Guarded Error Char) = pure word.symbol :=
  element_eq_pure (List.getElem?_eq_getElem word.isLt)

/-- No bit is set above the low five of a byte that is a word. -/
theorem shiftRight_eq_zero_iff (byte : UInt8) : byte >>> 5 = 0 ↔ byte < 32 := by
  have bound := byte.toNat_lt
  rw [← UInt8.toNat_inj, UInt8.lt_iff_toNat_lt, UInt8.toNat_shiftRight,
    Nat.shiftRight_eq_div_pow]
  simp

theorem writeSymbols_toByte (word : Word) (residue : Residue) (rest : List UInt8) :
    writeSymbols residue.widen (word.toByte :: rest) = do
      let (symbols, final) ← writeSymbols (residue.absorb word).widen rest
      return (word.symbol :: symbols, final) := by
  have small : word.toByte >>> 5 = 0 :=
    (shiftRight_eq_zero_iff _).mpr (Word.toByte_lt word)
  have register : word.toByte.toUInt32 = word.widen := by
    revert word
    decide
  have position : word.toByte.toNat = word.toNat := by
    revert word
    decide
  rw [writeSymbols, if_neg (not_not_intro small), guardedStep_widen, Guarded.pure_bind, position,
    element_alphabet, Guarded.pure_bind, register, ← Residue.widen_xor_word]
  rfl

theorem writeSymbols_eq_pure (words : List Word) (residue : Residue) :
    writeSymbols residue.widen (words.map Word.toByte) =
      pure (words.map Word.symbol, (residue.absorbAll words).widen) := by
  induction words generalizing residue with
  | nil => rfl
  | cons word rest ih =>
      rw [List.map_cons, writeSymbols_toByte, ih, Guarded.pure_bind]
      rfl

theorem writeSymbols_of_find? {bytes : List UInt8} {offender : UInt8}
    (found : bytes.find? (32 ≤ ·) = some offender) (residue : Residue) :
    writeSymbols residue.widen bytes = fail (.invalidWord offender) := by
  induction bytes generalizing residue with
  | nil => cases found
  | cons byte rest ih =>
      by_cases large : 32 ≤ byte
      · rw [List.find?_cons_of_pos (by simpa using large)] at found
        have high : byte >>> 5 ≠ 0 := by
          rwa [ne_eq, shiftRight_eq_zero_iff, UInt8.not_lt]
        rw [writeSymbols, if_pos high, Option.some.inj found]
      · rw [List.find?_cons_of_neg (by simpa using large)] at found
        rw [← Word.toByte_ofByte (UInt8.not_le.mp large), writeSymbols_toByte,
          ih found, fail_bind]

/-! ## The checksum -/

theorem guardedSteps_widen (rounds : Nat) (residue : Residue) :
    guardedSteps rounds residue.widen =
      pure (residue.absorbAll (List.replicate rounds 0)).widen := by
  induction rounds generalizing residue with
  | zero => rfl
  | succ rounds ih =>
      have room : residue.step = residue.absorb 0 := by simp [Residue.absorb]
      rw [guardedSteps, guardedStep_widen, Guarded.pure_bind, room, ih]
      rfl

theorem writeDigits_eq_pure {rounds : List Nat} (few : ∀ round ∈ rounds, round ≤ 5)
    (residue : Residue) :
    writeDigits residue.widen rounds =
      pure (rounds.map fun round =>
        Word.symbol (residue.extractLsb' ((5 - round) * 5) 5)) := by
  induction rounds with
  | nil => rfl
  | cons round rest ih =>
      rw [List.forall_mem_cons] at few
      have digit : ((residue.widen >>> ((5 - round) * 5).toUInt32) &&& 0x1f).toNat =
          (residue.extractLsb' ((5 - round) * 5) 5).toNat := by
        rw [BitVec.extractLsb'_toNat, ← Residue.toNat_widen,
          Nat.shiftRight_eq_div_pow, ← Register.toNat_shiftRight _ (by omega)]
        exact toNat_and_ones _ (by decide : 5 < 32)
      rw [writeDigits, subtract_eq_pure few.1, Guarded.pure_bind,
        shiftRight_eq_pure (by omega), Guarded.pure_bind, digit, element_alphabet,
        Guarded.pure_bind, ih few.2]
      rfl

theorem writeDigits_range (residue : Residue) :
    writeDigits residue.widen (List.range checksumLength) =
      pure (residue.words.map Word.symbol) :=
  writeDigits_eq_pure (by decide) residue

/-- A machine writes every text without any fault, and its result is that of
writing. -/
theorem guardedEncode_eq (limit : Nat) (parts : Parts) :
    guardedEncode limit parts = Guarded.ofExcept (encode limit parts) := by
  rw [guardedEncode, encode]
  refine bind_eq_ofExcept rfl fun _ _ => ?_
  refine bind_eq_ofExcept rfl fun _ writable => ?_
  have ascii := toNat_lt_of_isHrpCharacter fun character member =>
    (requireWritable_eq_ok_iff.mp writable character member).1
  have size : (Text.utf8Bytes parts.hrp).length + 1 + parts.words.length +
      checksumLength = encodedLength parts.hrp.toList parts.words.length := by
    rw [Text.utf8Bytes_of_ascii ascii, Text.length_asciiBytes, encodedLength]
  rw [size]
  refine bind_eq_ofExcept rfl fun _ _ => ?_
  rw [Text.utf8Bytes_of_ascii ascii, guardedResidue_asciiBytes ascii,
    Guarded.pure_bind]
  cases offender : parts.words.find? (32 ≤ ·) with
  | some byte =>
      rw [writeSymbols_of_find? offender, fail_bind, Word.ofBytes, offender]
      rfl
  | none =>
      have words : Word.ofBytes parts.words = .ok (parts.words.map Word.ofByte) := by
        rw [Word.ofBytes, offender]
      rw [words, Except.ok_bind]
      generalize parts.words.map Word.ofByte = taken at words
      rw [Word.ofBytes_eq_ok_iff.mp words, writeSymbols_eq_pure, Guarded.pure_bind]
      dsimp only
      rw [guardedSteps_widen, Guarded.pure_bind, ← Residue.widen_xor,
        writeDigits_range, Guarded.pure_bind, ← List.map_append,
        ← Residue.absorbAll_append, ← residue_append, List.nil_append]
      rfl

end NostrEntities.Bech32
