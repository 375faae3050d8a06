import Mathlib.Algebra.CharP.Two
import Mathlib.Algebra.Field.MinimalAxioms
import NostrEntities.Proofs.Bech32.Residue

/-!
# The field of words

The checksum calculates in the field with 32 elements. A word is a polynomial of
degree below five over the bits, and words are multiplied modulo
`x ^ 5 + x ^ 3 + 1`. Every word but zero is a power of `x`, which settles all laws
of multiplication. Bit vectors already add and multiply as numbers, so the field
has a type of its own.
-/

namespace NostrEntities.Bech32

namespace Word

/-- Multiply by `x`. The coefficient that falls out at the top comes back as
`x ^ 3 + 1`. -/
def timesX (word : Word) : Word :=
  (word <<< 1) ^^^ (if word.getLsbD 4 then 0b01001 else 0)

/-- Go on with a product by Horner's rule, over the given coefficients of the second
factor. -/
def timesFrom (product first second : Word) (places : List Nat) : Word :=
  places.foldl (fun product place =>
    timesX product ^^^ (if second.getLsbD place then first else 0)) product

/-- The product in the field. -/
def times (first second : Word) : Word :=
  timesFrom 0 first second [4, 3, 2, 1, 0]

/-- The inverse in the field, which is the 30th power. -/
def inverse (word : Word) : Word :=
  (times word)^[30] 1

theorem timesX_xor (first second : Word) :
    timesX (first ^^^ second) = timesX first ^^^ timesX second := by
  simp only [timesX, BitVec.shiftLeft_xor_distrib, BitVec.getLsbD_xor,
    Residue.select_xor]
  ac_rfl

theorem timesFrom_xor (product other first second third : Word)
    (places : List Nat) :
    timesFrom (product ^^^ other) first (second ^^^ third) places =
      timesFrom product first second places ^^^
        timesFrom other first third places := by
  induction places generalizing product other with
  | nil => rfl
  | cons place rest ih =>
      simp only [timesFrom, List.foldl_cons] at *
      rw [← ih, timesX_xor, BitVec.getLsbD_xor, Residue.select_xor]
      congr 1
      ac_rfl

theorem times_xor (first second third : Word) :
    times first (second ^^^ third) = times first second ^^^ times first third :=
  timesFrom_xor 0 0 first second third _

theorem times_zero (word : Word) : times word 0 = 0 := by
  revert word
  decide

theorem zero_times (word : Word) : times 0 word = 0 := by
  revert word
  decide

theorem times_one (word : Word) : times word 1 = word := by
  revert word
  decide

theorem times_timesX (first second : Word) :
    times first (timesX second) = timesX (times first second) := by
  revert first second
  decide +kernel

theorem times_iterate (count : Nat) (first second : Word) :
    times first (timesX^[count] second) = timesX^[count] (times first second) := by
  induction count with
  | zero => rfl
  | succ count ih =>
      rw [Function.iterate_succ_apply', times_timesX, ih,
        Function.iterate_succ_apply']

/-- Every word but zero is a power of `x`. -/
theorem eq_zero_or_iterate (word : Word) :
    word = 0 ∨ ∃ count < 31, timesX^[count] 1 = word := by
  revert word
  decide +kernel

theorem times_comm (first second : Word) :
    times first second = times second first := by
  rcases eq_zero_or_iterate first with rfl | ⟨count, -, rfl⟩
  · rw [times_zero, zero_times]
  · rcases eq_zero_or_iterate second with rfl | ⟨other, -, rfl⟩
    · rw [times_zero, zero_times]
    · rw [times_iterate, times_iterate, times_one, times_one,
        ← Function.iterate_add_apply, ← Function.iterate_add_apply, Nat.add_comm]

theorem times_assoc (first second third : Word) :
    times (times first second) third = times first (times second third) := by
  rcases eq_zero_or_iterate third with rfl | ⟨count, -, rfl⟩
  · simp only [times_zero]
  · simp only [times_iterate, times_one]

theorem inverse_zero : inverse 0 = 0 := by
  decide +kernel

theorem times_inverse {word : Word} (nonzero : word ≠ 0) :
    times word (inverse word) = 1 := by
  revert word
  decide +kernel

end Word

/-- A word as an element of the field. -/
@[ext]
structure Scalar where
  word : Word
  deriving DecidableEq

namespace Scalar

instance : Zero Scalar := ⟨⟨0⟩⟩
instance : One Scalar := ⟨⟨1⟩⟩
instance : Add Scalar := ⟨fun first second => ⟨first.word ^^^ second.word⟩⟩
instance : Neg Scalar := ⟨id⟩
instance : Mul Scalar := ⟨fun first second => ⟨first.word.times second.word⟩⟩
instance : Inv Scalar := ⟨fun scalar => ⟨scalar.word.inverse⟩⟩

theorem mk_zero : (⟨0⟩ : Scalar) = 0 := rfl

theorem mk_xor (first second : Word) :
    (⟨first ^^^ second⟩ : Scalar) = ⟨first⟩ + ⟨second⟩ := rfl

theorem mk_times (first second : Word) :
    (⟨first.times second⟩ : Scalar) = ⟨first⟩ * ⟨second⟩ := rfl

/-- The field with 32 elements. -/
instance : Field Scalar :=
  Field.ofMinimalAxioms Scalar
    (fun first second third =>
      Scalar.ext (BitVec.xor_assoc first.word second.word third.word))
    (fun _ => Scalar.ext BitVec.zero_xor)
    (fun _ => Scalar.ext BitVec.xor_self)
    (fun first second third =>
      Scalar.ext (Word.times_assoc first.word second.word third.word))
    (fun first second => Scalar.ext (Word.times_comm first.word second.word))
    (fun scalar =>
      Scalar.ext ((Word.times_comm 1 scalar.word).trans
        (Word.times_one scalar.word)))
    (fun _ nonzero =>
      Scalar.ext (Word.times_inverse fun zero => nonzero (Scalar.ext zero)))
    (Scalar.ext Word.inverse_zero)
    (fun first second third =>
      Scalar.ext (Word.times_xor first.word second.word third.word))
    ⟨0, 1, by decide⟩

instance : CharP Scalar 2 :=
  CharTwo.of_one_ne_zero_of_two_eq_zero one_ne_zero (by decide)

end Scalar

end NostrEntities.Bech32
