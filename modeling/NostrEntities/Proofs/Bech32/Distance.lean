import Mathlib
import NostrEntities.Proofs.Bech32.Polynomial

/-!
# How far apart checksummed words are

Three powers in succession of an element of order 1023 are roots of the generator,
in the field with 1024 elements. A polynomial that vanishes at as many powers in
succession as it has coefficients is zero. So no three words or fewer, at places
within 1023 of each other, have the residue zero; and a single word never has the
residue by which the two variants differ, at whatever place it stands.
-/

namespace NostrEntities.Bech32

open Polynomial

/-! ## Roots in succession -/

section Roots

variable {F K : Type*} [Field F] [Field K] [Algebra F K]

/-- The value of a polynomial as a sum over the places of its coefficients, in
order. -/
theorem aeval_eq_sum_places (polynomial : F[X]) (value : K) :
    aeval value polynomial =
      ∑ index : Fin polynomial.support.card,
        algebraMap F K
            (polynomial.coeff (polynomial.support.orderEmbOfFin rfl index)) *
          value ^ polynomial.support.orderEmbOfFin rfl index := by
  rw [aeval_def, eval₂_eq_sum, sum_def]
  nth_rewrite 1 [← Finset.map_orderEmbOfFin_univ polynomial.support rfl]
  rw [Finset.sum_map]
  rfl

/-- A polynomial is zero if it vanishes at as many successive multiples by `ratio`
as it has coefficients, and the powers of `ratio` tell its places apart. -/
theorem eq_zero_of_successive_roots {polynomial : F[X]} {first ratio : K}
    {count : Nat} (nonzero : first ≠ 0)
    (few : polynomial.support.card ≤ count)
    (distinct : Set.InjOn (ratio ^ ·) (polynomial.support : Set Nat))
    (roots : ∀ step < count, aeval (first * ratio ^ step) polynomial = 0) :
    polynomial = 0 := by
  have apart : Function.Injective fun index =>
      ratio ^ polynomial.support.orderEmbOfFin rfl index := by
    intro left right same
    exact (polynomial.support.orderEmbOfFin rfl).injective
      (distinct (Finset.orderEmbOfFin_mem _ rfl left)
        (Finset.orderEmbOfFin_mem _ rfl right) same)
  -- The equations at the roots are those of a Vandermonde matrix.
  have sums (step : Fin polynomial.support.card) :
      ∑ index, algebraMap F K
            (polynomial.coeff (polynomial.support.orderEmbOfFin rfl index)) *
          first ^ polynomial.support.orderEmbOfFin rfl index *
        (ratio ^ polynomial.support.orderEmbOfFin rfl index) ^ (step : Nat) =
          0 := by
    rw [← roots step (step.2.trans_le few), aeval_eq_sum_places]
    apply Finset.sum_congr rfl
    intro index _
    rw [mul_pow, mul_assoc, ← pow_mul, ← pow_mul, Nat.mul_comm]
  have vanish := Matrix.eq_zero_of_forall_pow_sum_mul_pow_eq_zero apart sums
  by_contra present
  have index : Fin polynomial.support.card :=
    ⟨0, Finset.card_pos.mpr (nonempty_support_iff.mpr present)⟩
  have weight := congrFun vanish index
  rw [Pi.zero_apply, mul_eq_zero, map_eq_zero] at weight
  rcases weight with zero | zero
  · exact mem_support_iff.mp (Finset.orderEmbOfFin_mem _ rfl index) zero
  · exact pow_ne_zero _ nonzero zero

end Roots

/-! ## The extension of the field of words -/

/-- The polynomial that the extension adds a root of has none yet. -/
instance : Fact (∀ scalar : Scalar, scalar ^ 2 ≠ ⟨23⟩ + ⟨9⟩ * scalar) where
  out := by
    rintro ⟨word⟩
    revert word
    decide +kernel

/-- The field with 1024 elements. -/
abbrev Extension := QuadraticAlgebra Scalar ⟨23⟩ ⟨9⟩

namespace Extension

/-- The root that the extension adds. -/
def primitive : Extension := QuadraticAlgebra.omega

/-- The first of the roots of the generator that follow each other. -/
def firstRoot : Extension := ⟨⟨29⟩, ⟨13⟩⟩

theorem primitive_pow_31 : primitive ^ 31 = ⟨⟨30⟩, ⟨6⟩⟩ := by decide +kernel

theorem primitive_pow_33 : primitive ^ 33 = ⟨⟨23⟩, ⟨0⟩⟩ := by decide +kernel

/-- The powers of the added root are all elements but zero. -/
theorem orderOf_primitive : orderOf primitive = 1023 := by
  apply orderOf_eq_of_pow_and_pow_div_prime (by decide)
  · rw [show 1023 = 33 * 31 by rfl, pow_mul, primitive_pow_33]
    decide +kernel
  · intro divisor prime divides
    rw [show 1023 = 3 * 11 * 31 by rfl, prime.dvd_mul, prime.dvd_mul,
      Nat.prime_dvd_prime_iff_eq prime (by decide),
      Nat.prime_dvd_prime_iff_eq prime (by decide),
      Nat.prime_dvd_prime_iff_eq prime (by decide)] at divides
    rcases divides with (rfl | rfl) | rfl
    · rw [show 1023 / 3 = 31 * 11 by rfl, pow_mul, primitive_pow_31]
      decide +kernel
    · rw [show 1023 / 11 = 31 * 3 by rfl, pow_mul, primitive_pow_31]
      decide +kernel
    · rw [show 1023 / 31 = 33 by rfl, primitive_pow_33]
      decide +kernel

theorem firstRoot_ne_zero : firstRoot ≠ 0 := by decide

/-- Horner's rule for the polynomial of some words. -/
theorem aeval_words (value : Extension) (words : List Word) :
    aeval value (Word.polynomial words) =
      words.foldl
        (fun sum word => sum * value + algebraMap Scalar Extension ⟨word⟩) 0 := by
  induction words using List.reverseRecOn with
  | nil => simp [Word.polynomial]
  | append_singleton words word ih =>
      rw [Word.polynomial_append, List.foldl_append, ← ih]
      simp [Word.polynomial]

theorem aeval_generator {step : Nat} (small : step < 3) :
    aeval (firstRoot * primitive ^ step) generator = 0 := by
  rw [generator, map_add, map_pow, aeval_X, aeval_words]
  revert step
  decide +kernel

end Extension

/-! ## Residues of few words -/

/-- The residue by which the texts of the two variants differ. -/
def Variant.difference : Residue :=
  Variant.bech32.constant ^^^ Variant.bech32m.constant

namespace Residue

open Extension (primitive firstRoot)

variable {words : List Word}

/-- Up to three words that are not zero leave a residue that is not zero, if the
powers of the primitive element tell their places apart. -/
theorem absorbAll_ne_zero (positive : 0 < words.countP (· ≠ 0))
    (few : words.countP (· ≠ 0) ≤ 3)
    (distinct :
      Set.InjOn (primitive ^ ·) ((Word.polynomial words).support : Set Nat)) :
    absorbAll 0 words ≠ 0 := by
  intro cleared
  have zero : Word.polynomial words = 0 := by
    apply eq_zero_of_successive_roots Extension.firstRoot_ne_zero
      ((Word.card_support_polynomial_le words).trans few) distinct
    intro step small
    rw [← aeval_absorbAll_zero (Extension.aeval_generator small), cleared,
      polynomial_zero, map_zero]
  rcases List.countP_pos_iff.mp positive with ⟨word, member, nonzero⟩
  simp [Word.polynomial_eq_zero_iff.mp zero word member] at nonzero

/-- Among at most 1023 words, up to three that are not zero leave a residue that is
not zero. -/
theorem absorbAll_ne_zero_of_few (positive : 0 < words.countP (· ≠ 0))
    (few : words.countP (· ≠ 0) ≤ 3) (short : words.length ≤ 1023) :
    absorbAll 0 words ≠ 0 := by
  apply absorbAll_ne_zero positive few
  apply pow_injOn_Iio_orderOf.mono
  intro place member
  have below := (le_degree_of_mem_supp place member).trans_lt
    (Word.degree_polynomial_lt words)
  rw [Set.mem_Iio, Extension.orderOf_primitive]
  exact (Nat.cast_lt.mp below).trans_le short

theorem card_support_polynomial_le_one (single : words.countP (· ≠ 0) = 1) :
    (Word.polynomial words).support.card ≤ 1 :=
  (Word.card_support_polynomial_le words).trans (Nat.le_of_eq single)

/-- Among any number of words, a single one that is not zero leaves a residue that
is not zero. -/
theorem absorbAll_ne_zero_of_single (single : words.countP (· ≠ 0) = 1) :
    absorbAll 0 words ≠ 0 := by
  apply absorbAll_ne_zero (by omega) (by omega)
  have alone := Finset.card_le_one_iff_subsingleton.mp
    (card_support_polynomial_le_one single)
  exact alone.injOn _

/-- A single word never leaves the residue by which the variants differ. At
successive roots its polynomial has values in a geometric progression, and the
polynomial of that residue does not. -/
theorem absorbAll_ne_difference (single : words.countP (· ≠ 0) = 1) :
    absorbAll 0 words ≠ Variant.difference := by
  intro reached
  rcases card_support_le_one_iff_monomial.mp
    (card_support_polynomial_le_one single) with ⟨place, scalar, alone⟩
  have values {step : Nat} (small : step < 3) :
      aeval (firstRoot * primitive ^ step) (polynomial Variant.difference) =
        algebraMap Scalar Extension scalar *
          (firstRoot * primitive ^ step) ^ place := by
    rw [← reached, aeval_absorbAll_zero (Extension.aeval_generator small), alone,
      aeval_monomial]
  have progression :
      aeval (firstRoot * primitive ^ 1) (polynomial Variant.difference) ^ 2 =
        aeval (firstRoot * primitive ^ 0) (polynomial Variant.difference) *
          aeval (firstRoot * primitive ^ 2) (polynomial Variant.difference) := by
    rw [values (by decide), values (by decide), values (by decide)]
    ring
  simp only [polynomial, Extension.aeval_words] at progression
  revert progression
  decide +kernel

end Residue

end NostrEntities.Bech32
