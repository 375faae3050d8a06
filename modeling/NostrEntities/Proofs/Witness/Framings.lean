import NostrEntities.Proofs.Witness.RoundTrip

/-!
# Texts that belong to one framing

A text is read as a program in one framing at most. Its checksum has to be that of
version 0, which leaves two lengths for the program, and the numbers of words that
carry them are further apart than the one word that a version takes.
-/

namespace NostrEntities.Witness

variable {framing : Framing} {version : UInt8} {bytes words : List UInt8}

theorem variantOf_eq_bech32_iff : variantOf version = .bech32 ↔ version = 0 := by
  rw [variantOf]
  split <;> simp_all

/-- Programs of version 0 are carried by one of two numbers of words, behind the words
of the framing. -/
theorem Carries.length_words_of_version_zero (carries : Carries framing 0 bytes words) :
    words.length = (framing.header 0).length + 32 ∨
      words.length = (framing.header 0).length + 52 := by
  have size := carries.length_words
  have allowed := carries.length_allowed
  simp only [isProgramLength, Bool.and_eq_true, Bool.or_eq_true, bne_self_eq_false,
    Bool.false_eq_true, false_or, beq_iff_eq] at allowed
  rcases allowed.2 with short | long
  · left
    rw [size, short]
  · right
    rw [size, long]

/-- The same words never carry programs of version 0 in both framings. -/
theorem Carries.not_both_framings {versionedBytes bareBytes : List UInt8}
    (versioned : Carries .versioned 0 versionedBytes words) :
    ¬ Carries .bare 0 bareBytes words := by
  intro bare
  have withVersion := versioned.length_words_of_version_zero
  have withoutVersion := bare.length_words_of_version_zero
  simp only [Framing.header, List.length_singleton, List.length_nil] at *
  omega

/-- Reading a text as a program fails in one framing at least. -/
theorem exists_cause_decode_versioned_or_bare (hrp address : String) :
    ∃ cause, decode .versioned hrp address = .error cause ∨
      decode .bare hrp address = .error cause := by
  cases versioned : decode .versioned hrp address with
  | error cause => exact ⟨cause, .inl rfl⟩
  | ok withVersion =>
      cases bare : decode .bare hrp address with
      | error cause => exact ⟨cause, .inr rfl⟩
      | ok withoutVersion =>
          rcases decode_eq_ok_iff_carries.mp versioned with
            ⟨-, words, carries, read⟩
          rcases decode_eq_ok_iff_carries.mp bare with
            ⟨counts, bareWords, bareCarries, bareRead⟩
          have zero : withoutVersion.version = 0 := counts.symm
          -- Both readings find the same words and the same variant in the text.
          rw [read, Except.ok.injEq, Bech32.Parts.mk.injEq] at bareRead
          rcases bareRead with ⟨-, rfl, sameVariant⟩
          rw [zero] at bareCarries sameVariant
          rw [variantOf_eq_bech32_iff.mp sameVariant] at carries
          exact absurd bareCarries carries.not_both_framings

end NostrEntities.Witness
