import Mathlib
import NostrEntities.Proofs.Bech32.Polynomial

/-!
# The residue as a remainder

The generator is monic of degree six, so every polynomial has one remainder modulo it,
and the six coefficients of the remainder are the digits of a number. The register of the
checksum is that number for the polynomial of all words that it took in, with the word
one in front of them.
-/

namespace NostrEntities.Bech32

open Polynomial

/-- The number whose digits to the base 32 are the six lowest coefficients. -/
noncomputable def packed (polynomial : Scalar[X]) : Nat :=
  ∑ place ∈ Finset.range checksumLength,
    (polynomial.coeff place).word.toNat * 32 ^ place

/-- What is left of a list of words, with the word one in front, modulo the
generator. -/
noncomputable def polymod (words : List Word) : Nat :=
  packed (Word.polynomial (1 :: words) %ₘ generator)

/-- The six lowest digits of a number to the base 32, the highest one first. -/
def digits (number : Nat) : List Word :=
  [5, 4, 3, 2, 1, 0].map fun place => BitVec.ofNat 5 (number / 32 ^ place)

/-! ## Division by the generator -/

theorem monic_generator : generator.Monic :=
  monic_X_pow_add (Word.degree_polynomial_lt generatorWords)

theorem degree_generator : generator.degree = 6 := by
  have below := Word.degree_polynomial_lt generatorWords
  rw [generator, degree_add_eq_left_of_degree_lt, degree_X_pow]
  · rfl
  · rw [degree_X_pow]
    exact below

namespace Residue

theorem degree_polynomial_lt (register : Residue) :
    register.polynomial.degree < generator.degree := by
  rw [degree_generator]
  exact Word.degree_polynomial_lt register.words

/-- A register is the remainder of what it held before, moved up, and the words that it
took in since. -/
theorem polynomial_absorbAll (register : Residue) (words : List Word) :
    (absorbAll register words).polynomial =
      (register.polynomial * X ^ words.length + Word.polynomial words) %ₘ
        generator := by
  rw [modByMonic_eq_of_dvd_sub monic_generator (generator_dvd register words)]
  exact ((modByMonic_eq_self_iff monic_generator).mpr (degree_polynomial_lt _)).symm

theorem polynomial_initial : polynomial initial = 1 := by
  have content : initial.words = [0, 0, 0, 0, 0, 1] := rfl
  rw [polynomial, content]
  simp only [Word.polynomial_zero_cons]
  simp [Word.polynomial]
  rfl

theorem polynomial_absorbAll_initial (words : List Word) :
    (absorbAll initial words).polynomial =
      Word.polynomial (1 :: words) %ₘ generator := by
  have one : C (⟨1⟩ : Scalar) = 1 := C_1
  rw [polynomial_absorbAll, polynomial_initial, Word.polynomial, one]

end Residue

/-! ## Numbers and their digits -/

/-- The coefficients of a list of words are the digits of the number that the words
write. -/
theorem Word.sum_coeff_polynomial (words : List Word) :
    ∑ place ∈ Finset.range words.length,
        ((polynomial words).coeff place).word.toNat * 32 ^ place =
      words.foldl (fun number word => number * 32 + word.toNat) 0 := by
  induction words using List.reverseRecOn with
  | nil => rfl
  | append_singleton words word ih =>
      have parted : polynomial (words ++ [word]) =
          polynomial words * X + C ⟨word⟩ := by
        simp [polynomial_append, polynomial]
      rw [List.foldl_append, ← ih, parted, List.length_append, List.length_singleton,
        Finset.sum_range_succ', List.foldl_cons, List.foldl_nil, Finset.sum_mul]
      simp [pow_succ, mul_assoc]

namespace Residue

theorem toNat_eq_foldl (register : Residue) :
    register.toNat =
      register.words.foldl (fun number word => number * 32 + word.toNat) 0 := by
  have stored : (absorbAll 0 register.words).toNat =
      register.words.foldl (fun number word => number * 32 + word.toNat) 0 :=
    toNat_absorbAll (by rw [length_words]; decide)
  rwa [absorbAll_zero_words] at stored

theorem packed_polynomial (register : Residue) :
    packed register.polynomial = register.toNat :=
  (Word.sum_coeff_polynomial register.words).trans (toNat_eq_foldl register).symm

theorem words_eq_digits (register : Residue) :
    register.words = digits register.toNat := by
  have digit (place : Nat) : register.extractLsb' (5 * place) 5 =
      BitVec.ofNat 5 (register.toNat / 32 ^ place) := by
    apply BitVec.eq_of_toNat_eq
    rw [BitVec.extractLsb'_toNat, Nat.shiftRight_eq_div_pow, BitVec.toNat_ofNat,
      Nat.pow_mul]
  rw [digits, List.map_congr_left fun place _ => (digit place).symm]
  rfl

/-- The register from its start on, as a number. -/
theorem toNat_absorbAll_initial (words : List Word) :
    (absorbAll initial words).toNat = polymod words := by
  rw [polymod, ← polynomial_absorbAll_initial, packed_polynomial]

end Residue

/-! ## The checksum -/

variable {hrp : List Char} {words : List Word} {variant : Variant}

/-- Six digits are all of a checksum. -/
theorem polymod_xor_constant_lt (words : List Word) (variant : Variant) :
    polymod words ^^^ variant.constant.toNat < 2 ^ 30 := by
  rw [← Residue.toNat_absorbAll_initial]
  exact Nat.xor_lt_two_pow (BitVec.isLt _) (BitVec.isLt _)

theorem residue_eq_constant_iff_polymod :
    residue hrp words = variant.constant ↔
      polymod (expandHrp hrp ++ words) = variant.constant.toNat := by
  rw [← BitVec.toNat_inj, residue, Residue.toNat_absorbAll_initial]

theorem checksum_eq_digits :
    checksum hrp words variant =
      digits (polymod (expandHrp hrp ++ words ++ List.replicate 6 0) ^^^
        variant.constant.toNat) := by
  rw [checksum, Residue.words_eq_digits, BitVec.toNat_xor, residue,
    Residue.toNat_absorbAll_initial, checksumLength, List.append_assoc]

end NostrEntities.Bech32
