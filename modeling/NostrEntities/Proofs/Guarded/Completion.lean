import NostrEntities.Proofs.Guarded.Remainder

/-!
# Completing a register

A step of the register loses nothing, and six words that are taken in one after the other
fill the six places of the register without ever reaching its top. So from every register
exactly one list of six words leads to a given target: the digits of the difference
between the target and what six steps alone lead to. On a machine the register keeps to
its 30 bits.
-/

namespace NostrEntities.Bech32.Residue

theorem step_bijective : Function.Bijective step :=
  Finite.injective_iff_bijective.mp step_injective

/-- Steps on their own take in zeros. -/
theorem iterate_step (register : Residue) (count : Nat) :
    step^[count] register = register.absorbAll (List.replicate count 0) := by
  induction count generalizing register with
  | zero => rfl
  | succ count ih =>
      have room : register.step = register.absorb 0 := by simp [absorb]
      rw [Function.iterate_succ_apply, ih, List.replicate_succ, absorbAll_cons, room]

/-- The words of a register by shifts, the top one first. -/
theorem words_eq_map_range (register : Residue) :
    register.words =
      (List.range 6).map fun place =>
        (register >>> (5 * (5 - place))).setWidth 5 := by
  have digit : ∀ low, register.extractLsb' low 5 = (register >>> low).setWidth 5 := by
    intro low
    apply BitVec.eq_of_toNat_eq
    rw [BitVec.extractLsb'_toNat, BitVec.toNat_setWidth, BitVec.toNat_ushiftRight]
  simp only [words, digit]
  rfl

/-- From every register exactly one list of six words leads to a given target. The step
that makes room for a word is a bijection of the registers of 30 bits and distributes over
exclusive or, and on a machine it does not leave the 30 bits. -/
theorem absorbAll_eq_iff_digits_and_step_bijective :
    (∀ (register target : Residue) (words : List Word),
      words.length = 6 ∧ register.absorbAll words = target ↔
        words = (List.range 6).map fun place =>
          ((step^[6] register ^^^ target) >>> (5 * (5 - place))).setWidth 5) ∧
    Function.Bijective step ∧
    (∀ first second : Residue, step (first ^^^ second) = step first ^^^ step second) ∧
    ∀ register : UInt32, register.toNat < 2 ^ 30 →
      ∃ stepped, guardedStep register = pure stepped ∧ stepped.toNat < 2 ^ 30 := by
  refine ⟨?_, step_bijective, step_xor, ?_⟩
  · intro register target words
    rw [iterate_step, ← words_eq_map_range]
    constructor
    · rintro ⟨six, reached⟩
      exact (absorbAll_eq_iff six).mp reached
    · rintro rfl
      exact ⟨length_words _, (absorbAll_eq_iff (length_words _)).mpr rfl⟩
  · intro register small
    rcases exists_guardedStep small with ⟨stepped, runs, bound, -⟩
    exact ⟨stepped, runs, bound⟩

/-- The words that complete a register of ones to a text of the second variant, and where
a machine gets from the register by a step. -/
theorem absorbAll_of_ones :
    absorbAll 0x3fffffff [19, 18, 0, 3, 4, 6] = Variant.bech32m.constant ∧
      (0x3fffffff : UInt32).toNat < 2 ^ 30 ∧
      ∃ stepped, guardedStep 0x3fffffff = pure stepped ∧ stepped.toNat < 2 ^ 30 := by
  rcases absorbAll_eq_iff_digits_and_step_bijective with ⟨completed, -, -, small⟩
  have bound : (0x3fffffff : UInt32).toNat < 2 ^ 30 := by decide
  exact ⟨((completed 0x3fffffff Variant.bech32m.constant _).mpr (by decide)).2, bound,
    small _ bound⟩

end NostrEntities.Bech32.Residue
