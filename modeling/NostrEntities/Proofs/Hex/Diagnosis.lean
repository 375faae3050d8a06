import NostrEntities.Proofs.Hex

/-!
# Texts that are not hexadecimal

A text of odd length is refused for its length alone. Of any other text the first byte
that is no digit is reported, with its position. Together with what is read of the
texts without such a byte this says for every text what comes of it, whether or not the
number of bytes is known beforehand.
-/

namespace NostrEntities.Hex

variable {index position count : Nat} {first code : UInt8} {codes rest : List UInt8}
  {cause : Error}

/-! ## Digits -/

/-- Whether a byte is one of `0` to `9`, `A` to `F` or `a` to `f`. -/
def IsDigit (code : UInt8) : Prop :=
  48 ≤ code ∧ code ≤ 57 ∨ 65 ≤ code ∧ code ≤ 70 ∨ 97 ≤ code ∧ code ≤ 102

instance (code : UInt8) : Decidable (IsDigit code) :=
  inferInstanceAs
    (Decidable (48 ≤ code ∧ code ≤ 57 ∨ 65 ≤ code ∧ code ≤ 70 ∨ 97 ≤ code ∧ code ≤ 102))

theorem digitValue?_eq_none_iff : digitValue? code = none ↔ ¬ IsDigit code := by
  revert code
  decide +kernel

theorem readDigit_eq_error_iff :
    readDigit index code = .error cause ↔
      ¬ IsDigit code ∧ cause = .invalidCharacter (Char.ofNat code.toNat) index := by
  rw [← digitValue?_eq_none_iff, readDigit]
  cases digitValue? code <;> simp [eq_comm]

theorem exists_readDigit_iff :
    (∃ value, readDigit index code = .ok value) ↔ IsDigit code := by
  simp [Except.exists_eq_ok_iff, readDigit_eq_error_iff]

/-! ## The first fault -/

/-- The first byte of a text that is no digit, and its position. -/
structure FirstFault (codes : List UInt8) (position : Nat) (code : UInt8) : Prop where
  found : codes[position]? = some code
  no_digit : ¬ IsDigit code
  digits_before : ∀ earlier < position, ∀ other,
    codes[earlier]? = some other → IsDigit other

namespace FirstFault

theorem zero_iff : FirstFault (first :: rest) 0 code ↔ ¬ IsDigit first ∧ first = code := by
  constructor
  · intro fault
    have same : first = code := Option.some.inj fault.found
    rw [same]
    exact ⟨fault.no_digit, rfl⟩
  · intro fault
    rcases fault with ⟨noDigit, rfl⟩
    exact ⟨rfl, noDigit, nofun⟩

theorem succ_iff :
    FirstFault (first :: rest) (position + 1) code ↔
      IsDigit first ∧ FirstFault rest position code := by
  constructor
  · intro fault
    refine ⟨fault.digits_before 0 (Nat.succ_pos position) first rfl, fault.found,
      fault.no_digit, ?_⟩
    intro earlier less other found
    exact fault.digits_before (earlier + 1) (Nat.succ_lt_succ less) other found
  · intro fault
    rcases fault with ⟨digit, found, noDigit, before⟩
    refine ⟨found, noDigit, ?_⟩
    intro earlier less other found
    cases earlier with
    | zero =>
        rw [← Option.some.inj found]
        exact digit
    | succ earlier => exact before earlier (Nat.lt_of_succ_lt_succ less) other found

/-- The first fault of a text is its first byte or the first fault of the others. -/
theorem exists_cons_iff {property : Nat → UInt8 → Prop} :
    (∃ position code, FirstFault (first :: rest) position code ∧
        property position code) ↔
      ¬ IsDigit first ∧ property 0 first ∨
        IsDigit first ∧ ∃ position code, FirstFault rest position code ∧
          property (position + 1) code := by
  constructor
  · intro faulty
    rcases faulty with ⟨position, code, fault, holds⟩
    cases position with
    | zero =>
        rcases zero_iff.mp fault with ⟨noDigit, rfl⟩
        exact .inl ⟨noDigit, holds⟩
    | succ position =>
        rcases succ_iff.mp fault with ⟨digit, others⟩
        exact .inr ⟨digit, position, code, others, holds⟩
  · intro faulty
    rcases faulty with ⟨noDigit, holds⟩ | ⟨digit, position, code, others, holds⟩
    · exact ⟨0, first, zero_iff.mpr ⟨noDigit, rfl⟩, holds⟩
    · exact ⟨position + 1, code, succ_iff.mpr ⟨digit, others⟩, holds⟩

/-- A text without a fault is one of digits. -/
theorem not_exists_iff :
    (∀ position code, ¬ FirstFault codes position code) ↔ ∀ code ∈ codes, IsDigit code := by
  induction codes with
  | nil =>
      simp only [List.not_mem_nil, false_implies, implies_true, iff_true]
      intro position code fault
      cases fault.found
  | cons first rest ih =>
      have parted := @exists_cons_iff first rest fun _ _ => True
      simp only [and_true] at parted
      simp only [← not_exists] at ih ⊢
      rw [parted, List.forall_mem_cons, ← ih, not_or, not_not]
      refine and_congr_right fun digit => ?_
      rw [and_iff_right digit]

end FirstFault

/-! ## Texts of any length -/

/-- Digits are looked at in the order in which they stand, so the first fault is the one
that is reported. -/
theorem readPairs_eq_error_iff (even : codes.length % 2 = 0) :
    readPairs index codes = .error cause ↔
      ∃ position code, FirstFault codes position code ∧
        cause = .invalidCharacter (Char.ofNat code.toNat) (index + position) := by
  fun_induction readPairs index codes with
  | case1 index =>
      simp only [reduceCtorEq, false_iff]
      intro faulty
      rcases faulty with ⟨position, code, fault, -⟩
      cases fault.found
  | case2 index code => cases even
  | case3 index high low rest ih =>
      have restEven : rest.length % 2 = 0 := by
        rwa [List.length_cons, List.length_cons, Nat.add_assoc, Nat.add_mod_right] at even
      simp only [Except.bind_eq_error_iff, readDigit_eq_error_iff, Except.pure_ne_error,
        and_false, exists_false, or_false, exists_and_right, exists_readDigit_iff,
        ih restEven, FirstFault.exists_cons_iff]
      simp only [Nat.add_comm, Nat.add_left_comm, Nat.add_zero]

theorem decode_eq_error_iff :
    decode codes = .error cause ↔
      codes.length % 2 = 1 ∧ cause = .oddLength ∨
        codes.length % 2 = 0 ∧ ∃ position code, FirstFault codes position code ∧
          cause = .invalidCharacter (Char.ofNat code.toNat) position := by
  rw [decode]
  split
  · rename_i odd
    rw [Except.error.injEq, eq_comm]
    have parity : codes.length % 2 = 1 := Nat.mod_two_ne_zero.mp odd
    simp [parity]
  · rename_i even
    have parity : codes.length % 2 = 0 := not_not.mp even
    simp [parity, readPairs_eq_error_iff parity]

/-- Texts of an even number of digits are read, and no others. -/
theorem exists_decode_iff :
    (∃ bytes, decode codes = .ok bytes) ↔
      codes.length % 2 = 0 ∧ ∀ code ∈ codes, IsDigit code := by
  rw [Except.exists_eq_ok_iff, ← FirstFault.not_exists_iff]
  constructor
  · intro accepted
    have even : codes.length % 2 = 0 := by
      rcases Nat.mod_two_eq_zero_or_one codes.length with even | odd
      · exact even
      · exact absurd (decode_eq_error_iff.mpr (.inl ⟨odd, rfl⟩)) (accepted .oddLength)
    refine ⟨even, ?_⟩
    intro position code fault
    exact accepted _ (decode_eq_error_iff.mpr (.inr ⟨even, position, code, fault, rfl⟩))
  · intro faultless cause refused
    rcases decode_eq_error_iff.mp refused with ⟨odd, -⟩ | ⟨-, position, code, fault, -⟩
    · rw [faultless.1] at odd
      cases odd
    · exact faultless.2 position code fault

/-! ## Texts of a known number of bytes -/

theorem length_of_decode {bytes : List UInt8} (read : decode codes = .ok bytes) :
    codes.length = 2 * bytes.length := by
  have lengths := congrArg List.length (decode_eq_ok_iff.mp read)
  rwa [List.length_map, length_utf8Bytes_encode] at lengths

theorem decodeExactly_eq_ok_iff_length {bytes : List UInt8} :
    decodeExactly count codes = .ok bytes ↔
      decode codes = .ok bytes ∧ codes.length = 2 * count := by
  rw [decodeExactly_eq_ok_iff, ← decode_eq_ok_iff]
  refine and_congr_right fun read => ?_
  rw [length_of_decode read]
  omega

/-- The number of bytes is compared after the text has been read. -/
theorem decodeExactly_eq_error_iff :
    decodeExactly count codes = .error cause ↔
      decode codes = .error cause ∨
        (∃ bytes, decode codes = .ok bytes) ∧ codes.length ≠ 2 * count ∧
          cause = .invalidLength count (codes.length / 2) := by
  rw [decodeExactly, Except.bind_eq_error_iff, ← exists_and_right]
  refine or_congr_right (exists_congr fun bytes => and_congr_right fun read => ?_)
  rw [length_of_decode read, Nat.mul_div_cancel_left _ (by decide)]
  split
  · rename_i same
    simp [same, Except.pure_ne_error]
  · rename_i different
    have doubled : 2 * bytes.length ≠ 2 * count := by
      omega
    simp [doubled, throw, throwThe, MonadExceptOf.throw, eq_comm]

/-- Every text comes to exactly one of three ends. It is refused for an odd length; or
else it is refused for its first byte that is no digit, which is reported as the character
with that number; or else it is read as the bytes whose form is the text in lower case.
What is written of any bytes is read back. Where the number of bytes is known, texts of
another length are refused in addition, but only those that could be read otherwise. -/
theorem decode_outcome_iff (codes : List UInt8) :
    (decode codes = .error .oddLength ↔ codes.length % 2 = 1) ∧
    (∀ character index, decode codes = .error (.invalidCharacter character index) ↔
      codes.length % 2 = 0 ∧ ∃ code, character = Char.ofNat code.toNat ∧
        codes[index]? = some code ∧ ¬ IsDigit code ∧
        ∀ earlier < index, ∀ other, codes[earlier]? = some other → IsDigit other) ∧
    ((∃ bytes, decode codes = .ok bytes) ↔
      codes.length % 2 = 0 ∧ ∀ code ∈ codes, IsDigit code) ∧
    (∀ bytes, decode codes = .ok bytes ↔
      Text.utf8Bytes (encode bytes) = codes.map Text.loweredByte) ∧
    (∀ bytes, decode (Text.utf8Bytes (encode bytes)) = .ok bytes) ∧
    (∀ count bytes, decodeExactly count codes = .ok bytes ↔
      decode codes = .ok bytes ∧ codes.length = 2 * count) ∧
    ∀ count cause, decodeExactly count codes = .error cause ↔
      decode codes = .error cause ∨
        (codes.length % 2 = 0 ∧ ∀ code ∈ codes, IsDigit code) ∧
          codes.length ≠ 2 * count ∧
          cause = .invalidLength count (codes.length / 2) := by
  refine ⟨?_, ?_, exists_decode_iff, ?_, decode_encode, ?_, ?_⟩
  · simp [decode_eq_error_iff]
  · intro character index
    simp only [decode_eq_error_iff, reduceCtorEq, and_false, false_or,
      Error.invalidCharacter.injEq]
    refine and_congr_right fun _ => ?_
    constructor
    · intro reported
      rcases reported with ⟨position, code, fault, rfl, rfl⟩
      exact ⟨code, rfl, fault.found, fault.no_digit, fault.digits_before⟩
    · intro faulty
      rcases faulty with ⟨code, rfl, found, noDigit, before⟩
      exact ⟨index, code, ⟨found, noDigit, before⟩, rfl, rfl⟩
  · intro bytes
    rw [decode_eq_ok_iff, eq_comm]
  · intro count bytes
    exact decodeExactly_eq_ok_iff_length
  · intro count cause
    rw [decodeExactly_eq_error_iff, exists_decode_iff]

/-- The first byte of a letter beyond ASCII is reported, as a character of its own. -/
example : decode (Text.utf8Bytes "0é1") = .error (.invalidCharacter 'Ã' 1) := by
  cbv

end NostrEntities.Hex
