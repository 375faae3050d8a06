import Mathlib.Algebra.Group.Nat.Defs
import NostrEntities.Bech32.Checksum

/-!
# The algebra of the residue

The register of the checksum is a linear machine: taking in words is additive for
exclusive or, in the register and in the words alike. Six words taken in by a
cleared register are simply stored. Together these say that for every register
there is exactly one list of six words that leads to a given residue, namely the
checksum.
-/

namespace NostrEntities.Bech32.Residue

/-! ## Linearity -/

theorem xor_xor_cancel_left (first second : Residue) :
    first ^^^ (first ^^^ second) = second := by
  rw [← BitVec.xor_assoc, BitVec.xor_self, BitVec.zero_xor]

/-- The contribution of a bit vector is linear in the bit that selects it. -/
theorem select_xor {width : Nat} (first second : Bool)
    (generator : BitVec width) :
    (if (first ^^ second) = true then generator else 0) =
      (if first = true then generator else 0) ^^^
        (if second = true then generator else 0) := by
  cases first <;> cases second <;> simp

theorem feedback_xor (first second : Word) :
    feedback (first ^^^ second) = feedback first ^^^ feedback second := by
  simp only [feedback, BitVec.getLsbD_xor, select_xor]
  ac_rfl

theorem step_xor (first second : Residue) :
    step (first ^^^ second) = step first ^^^ step second := by
  simp only [step, BitVec.shiftLeft_xor_distrib, BitVec.extractLsb'_xor,
    feedback_xor]
  ac_rfl

/-- Taking in a sum of words with a sum of registers. -/
theorem absorb_xor (first second : Residue) (left right : Word) :
    absorb (first ^^^ second) (left ^^^ right) =
      absorb first left ^^^ absorb second right := by
  simp only [absorb, step_xor, BitVec.setWidth_xor]
  ac_rfl

/-- Linearity along a whole list of words. -/
theorem absorbAll_xor (first second : Residue) {left right : List Word}
    (same : left.length = right.length) :
    absorbAll (first ^^^ second) (List.zipWith (· ^^^ ·) left right) =
      absorbAll first left ^^^ absorbAll second right := by
  induction left generalizing first second right with
  | nil =>
      cases right with
      | nil => rfl
      | cons => cases same
  | cons word rest ih =>
      cases right with
      | nil => cases same
      | cons other others =>
          simp only [List.zipWith_cons_cons, absorbAll_cons, absorb_xor]
          exact ih _ _ (by simpa using same)

/-- What a register does to words splits into what it does to zeros and what the
cleared register does to the words. -/
theorem absorbAll_eq_xor (register : Residue) (words : List Word) :
    absorbAll register words =
      absorbAll register (List.replicate words.length 0) ^^^
        absorbAll 0 words := by
  have zeros : List.zipWith (· ^^^ ·) (List.replicate words.length 0) words =
      words := by
    induction words with
    | nil => rfl
    | cons word rest ih => simpa [List.replicate_succ] using ih
  have linear := absorbAll_xor register 0
    (show (List.replicate words.length (0 : Word)).length = words.length by simp)
  rw [zeros] at linear
  simpa using linear

/-! ## The register as storage -/

theorem feedback_zero : feedback 0 = 0 := by decide

/-- Below the top word the register makes room without feedback. -/
theorem step_eq_shiftLeft {register : Residue}
    (small : register.toNat < 2 ^ 25) : step register = register <<< 5 := by
  have top : register.extractLsb' 25 5 = 0 := by
    apply BitVec.eq_of_toNat_eq
    rw [BitVec.extractLsb'_toNat, Nat.shiftRight_eq_div_pow]
    simp; omega
  rw [step, top, feedback_zero]
  simp

/-- A word taken in below the top word is stored as one more digit. -/
theorem toNat_absorb {register : Residue} (word : Word)
    (small : register.toNat < 2 ^ 25) :
    (absorb register word).toNat = register.toNat * 32 + word.toNat := by
  have inBounds := word.isLt
  have shifted : (register <<< 5).toNat = register.toNat * 2 ^ 5 := by
    rw [BitVec.toNat_shiftLeft, Nat.shiftLeft_eq]
    omega
  have kept : (word.setWidth 30).toNat = word.toNat := by
    rw [BitVec.toNat_setWidth]
    omega
  rw [absorb, step_eq_shiftLeft small, BitVec.toNat_xor, shifted, kept]
  have high : (register.toNat * 2 ^ 5 ^^^ word.toNat) / 2 ^ 5 =
      register.toNat := by
    rw [Nat.xor_div_two_pow, Nat.div_eq_of_lt inBounds, Nat.xor_zero]
    omega
  have low : (register.toNat * 2 ^ 5 ^^^ word.toNat) % 2 ^ 5 = word.toNat := by
    rw [Nat.xor_mod_two_pow, Nat.mul_mod_left, Nat.zero_xor,
      Nat.mod_eq_of_lt inBounds]
  omega

/-- Words taken in while there is room are the digits of the content. -/
theorem toNat_absorbAll {register : Residue} {words : List Word}
    (room : (register.toNat + 1) * 32 ^ words.length ≤ 2 ^ 30) :
    (absorbAll register words).toNat =
      words.foldl (fun number word => number * 32 + word.toNat)
        register.toNat := by
  induction words generalizing register with
  | nil => rfl
  | cons word rest ih =>
      have inBounds := word.isLt
      have positive : 0 < 32 ^ rest.length := Nat.pow_pos (by decide)
      rw [List.length_cons, Nat.pow_succ] at room
      have small : register.toNat < 2 ^ 25 := by
        have least : (register.toNat + 1) * (1 * 32) ≤
            (register.toNat + 1) * (32 ^ rest.length * 32) :=
          Nat.mul_le_mul_left _ (Nat.mul_le_mul_right _ positive)
        omega
      have stored := toNat_absorb word small
      rw [absorbAll_cons, List.foldl_cons, ← stored]
      apply ih
      calc
        ((absorb register word).toNat + 1) * 32 ^ rest.length
          ≤ ((register.toNat + 1) * 32) * 32 ^ rest.length :=
            Nat.mul_le_mul_right _ (by omega)
        _ = (register.toNat + 1) * (32 ^ rest.length * 32) := by
            rw [Nat.mul_assoc, Nat.mul_comm 32]
        _ ≤ 2 ^ 30 := room

/-- The words of a residue are its digits, so a cleared register that takes them
in holds the residue. -/
theorem absorbAll_zero_words (register : Residue) :
    absorbAll 0 register.words = register := by
  apply BitVec.eq_of_toNat_eq
  have inBounds := register.isLt
  rw [toNat_absorbAll (by rw [length_words]; decide)]
  simp only [words, List.map_cons, List.map_nil, List.foldl_cons, List.foldl_nil,
    BitVec.extractLsb'_toNat, Nat.shiftRight_eq_div_pow]
  simp
  omega

/-- Six words are the words of what they lead to from the cleared register. -/
theorem words_absorbAll_zero {words : List Word} (six : words.length = 6) :
    (absorbAll 0 words).words = words := by
  have content : (absorbAll 0 words).toNat =
      words.foldl (fun number word => number * 32 + word.toNat) 0 :=
    toNat_absorbAll (by simp [six])
  match words, six with
  | [first, second, third, fourth, fifth, sixth], _ =>
      have secondLt := second.isLt
      have thirdLt := third.isLt
      have fourthLt := fourth.isLt
      have fifthLt := fifth.isLt
      have sixthLt := sixth.isLt
      simp only [List.foldl_cons, List.foldl_nil] at content
      simp only [Residue.words, List.map_cons, List.map_nil, List.cons.injEq,
        and_true]
      refine ⟨?_, ?_, ?_, ?_, ?_, ?_⟩ <;> apply BitVec.eq_of_toNat_eq <;>
        rw [BitVec.extractLsb'_toNat, Nat.shiftRight_eq_div_pow, content] <;>
        simp <;> omega

theorem words_xor (first second : Residue) :
    words (first ^^^ second) =
      List.zipWith (· ^^^ ·) first.words second.words := by
  simp [words, BitVec.extractLsb'_xor]

theorem absorbAll_top_zeros (top : Word) :
    absorbAll (absorb 0 top) (List.replicate 6 0) = feedback top := by
  revert top
  decide

/-- The words below the top one move up, the new word follows them, and the top
word comes back as feedback. -/
theorem words_absorb {register : Residue} {top : Word} {rest : List Word}
    (word : Word) (parted : register.words = top :: rest) :
    (absorb register word).words =
      List.zipWith (· ^^^ ·) (feedback top).words (rest ++ [word]) := by
  have six : (rest ++ [word]).length = 6 := by
    rw [List.length_append, List.length_singleton, ← List.length_cons, ← parted,
      length_words]
  have whole :
      absorb register word = absorbAll (absorb 0 top) (rest ++ [word]) := by
    rw [absorbAll_append, ← absorbAll_cons, ← parted, absorbAll_zero_words]
    rfl
  rw [whole, absorbAll_eq_xor, six, absorbAll_top_zeros, words_xor,
    words_absorbAll_zero six]

/-! ## No information is lost -/

theorem eq_zero_of_step_eq_zero {register : Residue}
    (cleared : step register = 0) : register = 0 := by
  -- The low words of the generators are independent, so the word at the bottom of
  -- the new register tells which one fell out at the top of the old one.
  have low : ∀ top : Word, (feedback top).extractLsb' 0 5 = 0 → top = 0 := by
    decide
  have top : register.extractLsb' 25 5 = 0 := by
    have shifted : (register <<< 5).extractLsb' 0 5 = 0 := by
      apply BitVec.eq_of_toNat_eq
      rw [BitVec.extractLsb'_toNat, BitVec.toNat_shiftLeft, Nat.shiftLeft_eq]
      simp
    have bottom := congrArg (BitVec.extractLsb' 0 5) cleared
    rw [step, BitVec.extractLsb'_xor, shifted] at bottom
    exact low _ (by simpa using bottom)
  have small : register.toNat < 2 ^ 25 := by
    have content := congrArg BitVec.toNat top
    rw [BitVec.extractLsb'_toNat, Nat.shiftRight_eq_div_pow] at content
    have inBounds := register.isLt
    simp at content
    omega
  have stored := toNat_absorb 0 small
  rw [absorb, cleared] at stored
  apply BitVec.eq_of_toNat_eq
  simp at stored
  simp
  omega

theorem step_injective : Function.Injective step := by
  intro first second same
  have cleared : step (first ^^^ second) = 0 := by
    rw [step_xor, same]
    exact BitVec.xor_self
  exact BitVec.xor_eq_zero_iff.mp (eq_zero_of_step_eq_zero cleared)

/-- Registers that differ still differ after the same words. -/
theorem absorbAll_injective (words : List Word) :
    Function.Injective fun register => absorbAll register words := by
  induction words with
  | nil => exact Function.injective_id
  | cons word rest ih =>
      intro first second same
      have absorbed : absorb first word = absorb second word := ih same
      exact step_injective ((BitVec.xor_left_inj _).mp absorbed)

/-! ## The checksum -/

/-- From every register, exactly one list of six words leads to a given residue:
the words of the difference between that residue and what six zeros lead to. -/
theorem absorbAll_eq_iff {register target : Residue} {words : List Word}
    (six : words.length = 6) :
    absorbAll register words = target ↔
      words = (absorbAll register (List.replicate 6 0) ^^^ target).words := by
  have parted := absorbAll_eq_xor register words
  rw [six] at parted
  constructor
  · intro reached
    have difference :
        absorbAll register (List.replicate 6 0) ^^^ target =
          absorbAll 0 words := by
      rw [← reached, parted, xor_xor_cancel_left]
    rw [difference, words_absorbAll_zero six]
  · intro digits
    rw [parted, digits, absorbAll_zero_words, xor_xor_cancel_left]

end NostrEntities.Bech32.Residue

namespace NostrEntities.Bech32

theorem residue_append (hrp : List Char) (first second : List Word) :
    residue hrp (first ++ second) =
      (residue hrp first).absorbAll second := by
  rw [residue, residue, ← List.append_assoc, Residue.absorbAll_append]

/-- Words followed by six more leave the residue of a variant exactly when those
six are the checksum. -/
theorem residue_eq_constant_iff {hrp : List Char} {words tail : List Word}
    {variant : Variant} (six : tail.length = checksumLength) :
    residue hrp (words ++ tail) = variant.constant ↔
      tail = checksum hrp words variant := by
  rw [residue_append, Residue.absorbAll_eq_iff six, checksum, residue_append]
  rfl

end NostrEntities.Bech32
