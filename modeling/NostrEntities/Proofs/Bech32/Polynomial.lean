import Mathlib
import NostrEntities.Proofs.Bech32.Scalar

/-!
# Words and residues as polynomials

A list of words is a polynomial over the field of words, the first word in front of
the highest power. The six words of a register are such a list too. Taking in a word
multiplies the register by `X`, adds the word, and takes off a multiple of one fixed
polynomial, the generator. So a register is what remains of all that it took in, up
to multiples of the generator.
-/

namespace NostrEntities.Bech32

open Polynomial

namespace Word

/-- The polynomial of a list of words. -/
noncomputable def polynomial : List Word → Scalar[X]
  | [] => 0
  | word :: rest => C ⟨word⟩ * X ^ rest.length + polynomial rest

theorem polynomial_append (first second : List Word) :
    polynomial (first ++ second) =
      polynomial first * X ^ second.length + polynomial second := by
  induction first with
  | nil => simp [polynomial]
  | cons word rest ih =>
      rw [List.cons_append, polynomial, ih, polynomial, List.length_append, pow_add]
      ring

theorem polynomial_xor {first second : List Word}
    (same : first.length = second.length) :
    polynomial (List.zipWith (· ^^^ ·) first second) =
      polynomial first + polynomial second := by
  induction first generalizing second with
  | nil =>
      cases second with
      | nil => simp [polynomial]
      | cons => cases same
  | cons word rest ih =>
      cases second with
      | nil => cases same
      | cons other others =>
          have tails : rest.length = others.length := by simpa using same
          rw [List.zipWith_cons_cons, polynomial, polynomial, polynomial, ih tails,
            List.length_zipWith, ← tails, Nat.min_self, Scalar.mk_xor, C_add]
          ring

theorem polynomial_map_times (word : Word) (words : List Word) :
    polynomial (words.map word.times) = C ⟨word⟩ * polynomial words := by
  induction words with
  | nil => simp [polynomial]
  | cons other rest ih =>
      rw [List.map_cons, polynomial, polynomial, ih, List.length_map,
        Scalar.mk_times, C_mul]
      ring

theorem polynomial_zero_cons (rest : List Word) :
    polynomial (0 :: rest) = polynomial rest := by
  rw [polynomial, Scalar.mk_zero, C_0, zero_mul, zero_add]

theorem degree_polynomial_lt (words : List Word) :
    (polynomial words).degree < words.length := by
  induction words with
  | nil => simp [polynomial]
  | cons word rest ih =>
      have shorter : (rest.length : WithBot ℕ) < (word :: rest).length := by
        exact_mod_cast Nat.lt_succ_self rest.length
      apply lt_of_le_of_lt (degree_add_le _ _) (max_lt _ (ih.trans shorter))
      exact lt_of_le_of_lt (degree_C_mul_X_pow_le _ _) shorter

theorem polynomial_eq_zero_iff {words : List Word} :
    polynomial words = 0 ↔ ∀ word ∈ words, word = 0 := by
  induction words with
  | nil => simp [polynomial]
  | cons word rest ih =>
      rw [List.forall_mem_cons, ← ih]
      constructor
      · intro zero
        have below : (polynomial rest).coeff rest.length = 0 :=
          coeff_eq_zero_of_degree_lt (degree_polynomial_lt rest)
        have leading := congrArg (fun sum => sum.coeff rest.length) zero
        simp only [polynomial, coeff_add, coeff_C_mul_X_pow, if_true, below,
          add_zero, coeff_zero] at leading
        have head : word = 0 := congrArg Scalar.word leading
        rw [head, polynomial_zero_cons] at zero
        exact ⟨head, zero⟩
      · rintro ⟨rfl, zero⟩
        rw [polynomial_zero_cons, zero]

/-- A polynomial has no more coefficients than its list has words that are not
zero. -/
theorem card_support_polynomial_le (words : List Word) :
    (polynomial words).support.card ≤ words.countP (· ≠ 0) := by
  induction words with
  | nil => simp [polynomial]
  | cons word rest ih =>
      by_cases zero : word = 0
      · rw [zero, polynomial_zero_cons]
        simpa using ih
      · rw [List.countP_cons_of_pos (by simpa using zero), polynomial]
        calc
          (C (⟨word⟩ : Scalar) * X ^ rest.length + polynomial rest).support.card
            ≤ (C (⟨word⟩ : Scalar) * X ^ rest.length).support.card +
                (polynomial rest).support.card :=
              (Finset.card_le_card support_add).trans (Finset.card_union_le _ _)
          _ ≤ rest.countP (· ≠ 0) + 1 := by
              rw [Nat.add_comm]
              exact Nat.add_le_add ih card_support_C_mul_X_pow_le_one

end Word

/-- The words of the generator below its leading power. -/
def generatorWords : List Word := [29, 22, 20, 21, 29, 18]

/-- The polynomial whose multiples leave no residue. -/
noncomputable def generator : Scalar[X] :=
  X ^ 6 + Word.polynomial generatorWords

namespace Residue

/-- The polynomial of the six words of a register. -/
noncomputable def polynomial (register : Residue) : Scalar[X] :=
  Word.polynomial register.words

theorem polynomial_zero : polynomial 0 = 0 := by
  rw [polynomial, Word.polynomial_eq_zero_iff]
  decide

/-- The five constants of the register are the generator times the five bits. -/
theorem words_feedback (top : Word) :
    (feedback top).words = generatorWords.map top.times := by
  revert top
  decide

theorem exists_polynomial_absorb (register : Residue) (word : Word) :
    ∃ quotient : Scalar[X], (absorb register word).polynomial =
      register.polynomial * X + C ⟨word⟩ + quotient * generator := by
  cases parted : register.words with
  | nil => cases parted
  | cons top rest =>
      have five : rest.length = 5 := by
        have six := length_words register
        rw [parted] at six
        exact Nat.succ.inj six
      have lengths : (feedback top).words.length = (rest ++ [word]).length := by
        rw [length_words, List.length_append, five, List.length_singleton]
      -- What falls out at the top is its leading power taken off and the rest of
      -- the generator added, which is the same as both added.
      have twice : C (⟨top⟩ : Scalar) * X ^ 6 + C ⟨top⟩ * X ^ 6 = 0 :=
        CharTwo.add_self_eq_zero _
      refine ⟨C ⟨top⟩, ?_⟩
      rw [polynomial, polynomial, words_absorb word parted, parted,
        Word.polynomial_xor lengths, words_feedback, Word.polynomial_map_times,
        Word.polynomial_append, generator]
      simp only [Word.polynomial, five, List.length_cons, List.length_nil]
      generalize Word.polynomial generatorWords = low
      linear_combination -twice

/-- Along a list of words, a register differs from all that it took in by a multiple
of the generator. -/
theorem generator_dvd (register : Residue) (words : List Word) :
    generator ∣
      register.polynomial * X ^ words.length + Word.polynomial words -
        (absorbAll register words).polynomial := by
  induction words generalizing register with
  | nil => simp [Word.polynomial]
  | cons word rest ih =>
      rcases exists_polynomial_absorb register word with ⟨quotient, absorbed⟩
      rcases ih (absorb register word) with ⟨other, others⟩
      rw [absorbed] at others
      refine ⟨other - quotient * X ^ rest.length, ?_⟩
      rw [absorbAll_cons, Word.polynomial, List.length_cons, mul_sub, ← others]
      ring

/-- Where the generator vanishes, the residue of some words has the value of the
words. -/
theorem aeval_absorbAll_zero {K : Type*} [CommRing K] [Algebra Scalar K] {value : K}
    (root : aeval value generator = 0) (words : List Word) :
    aeval value (absorbAll 0 words).polynomial =
      aeval value (Word.polynomial words) := by
  rcases generator_dvd 0 words with ⟨quotient, difference⟩
  rw [polynomial_zero, zero_mul, zero_add] at difference
  have evaluated := congrArg (aeval value) difference
  rw [map_sub, map_mul, root, zero_mul, sub_eq_zero] at evaluated
  exact evaluated.symm

end Residue

end NostrEntities.Bech32
