import NostrEntities.Proofs.Bech32.Distance
import NostrEntities.Proofs.Bech32.RoundTrip

/-!
# Mistyped symbols

A text is mistyped when symbols after its separator are replaced by symbols of other
words. The residue then changes by the residue of the differences, which does not
depend on the text. One mistyped symbol is always noticed; of up to three in a text
of usual length, the worst that comes out is a text of the other variant.
-/

namespace NostrEntities.Bech32

/-- The second list is the first one with the given number of symbols replaced by
symbols of other words. -/
inductive Replaced : Nat → List Char → List Char → Prop where
  | nil : Replaced 0 [] []
  | keep {count : Nat} {first second : List Char} (character : Char) :
      Replaced count first second →
      Replaced count (character :: first) (character :: second)
  | replace {count : Nat} {first second : List Char} {old new : Char} :
      Word.isSymbol new = true → Word.ofSymbol? new ≠ Word.ofSymbol? old →
      Replaced count first second →
      Replaced (count + 1) (old :: first) (new :: second)

/-- The second text is the first one with the given number of symbols after the last
separator replaced by symbols of other words, and is still in a single case. -/
structure Mistyped (count : Nat) (text other : String) : Prop where
  replaced : ∃ hrp data typed,
    text.toList = hrp ++ separator :: data ∧ separator ∉ data ∧
      other.toList = hrp ++ separator :: typed ∧ Replaced count data typed
  single_case : Text.isMixedCase other.toList = false

namespace Replaced

variable {count : Nat} {data typed : List Char}

theorem length_eq (replaced : Replaced count data typed) :
    typed.length = data.length := by
  induction replaced with
  | nil => rfl
  | keep character _ ih => simp [ih]
  | replace _ _ _ ih => simp [ih]

theorem isSymbol_of_mem (replaced : Replaced count data typed)
    (symbols : ∀ character ∈ data, Word.isSymbol character = true) :
    ∀ character ∈ typed, Word.isSymbol character = true := by
  induction replaced with
  | nil => exact symbols
  | keep character _ ih =>
      rw [List.forall_mem_cons] at symbols ⊢
      exact ⟨symbols.1, ih symbols.2⟩
  | replace valid _ _ ih =>
      rw [List.forall_mem_cons] at symbols ⊢
      exact ⟨valid, ih symbols.2⟩

/-- Symbols that are put in front on both sides change nothing. -/
theorem append_left (kept : List Char) (replaced : Replaced count data typed) :
    Replaced count (kept ++ data) (kept ++ typed) := by
  induction kept with
  | nil => exact replaced
  | cons character rest ih => exact .keep character ih

theorem refl (characters : List Char) : Replaced 0 characters characters := by
  simpa using append_left characters .nil

/-- The words differ at as many places as symbols were replaced. -/
theorem countP_zipWith_xor (replaced : Replaced count data typed)
    (symbols : ∀ character ∈ data, Word.isSymbol character = true) :
    (List.zipWith (· ^^^ ·) (Word.ofSymbols data)
      (Word.ofSymbols typed)).countP (· ≠ 0) = count := by
  induction replaced with
  | nil => rfl
  | keep character _ ih =>
      rw [List.forall_mem_cons] at symbols
      rcases Option.isSome_iff_exists.mp symbols.1 with ⟨word, read⟩
      have others := ih symbols.2
      simp only [Word.ofSymbols] at others ⊢
      rw [List.filterMap_cons_some read, List.filterMap_cons_some read,
        List.zipWith_cons_cons, List.countP_cons_of_neg (by simp), others]
  | @replace _ _ _ old new valid different _ ih =>
      rw [List.forall_mem_cons] at symbols
      rcases Option.isSome_iff_exists.mp symbols.1 with ⟨word, read⟩
      rcases Option.isSome_iff_exists.mp valid with ⟨other, readOther⟩
      have apart : word ^^^ other ≠ 0 := by
        intro zero
        rw [BitVec.xor_eq_zero_iff.mp zero] at read
        exact different (readOther.trans read.symm)
      have others := ih symbols.2
      simp only [Word.ofSymbols] at others ⊢
      rw [List.filterMap_cons_some read, List.filterMap_cons_some readOther,
        List.zipWith_cons_cons, List.countP_cons_of_pos (by simpa using apart),
        others]

end Replaced

/-- The residues of two texts differ by the residue of the differences between
their words. -/
theorem residue_xor_residue (hrp : List Char) {first second : List Word}
    (same : first.length = second.length) :
    residue hrp first ^^^ residue hrp second =
      Residue.absorbAll 0 (List.zipWith (· ^^^ ·) first second) := by
  rw [residue, residue, Residue.absorbAll_append, Residue.absorbAll_append,
    ← Residue.absorbAll_xor _ _ same, BitVec.xor_self]
  rfl

theorem Reads.split_unique {limit : Nat} {text : String}
    {hrp data before after : List Char} (reads : Reads limit text hrp data)
    (parted : text.toList = before ++ separator :: after)
    (absent : separator ∉ after) : before = hrp ∧ after = data := by
  have found := splitAtSeparator?_eq_some_iff.mpr ⟨parted, absent⟩
  rw [splitAtSeparator?_eq_some_iff.mpr
    ⟨reads.toList_eq, reads.separator_not_mem⟩] at found
  cases found
  exact ⟨rfl, rfl⟩

/-- Replaced symbols leave a text in the right format, as long as it stays in a
single case. -/
theorem Reads.of_replaced {limit count : Nat} {text other : String}
    {hrp data typed : List Char} (reads : Reads limit text hrp data)
    (replaced : Replaced count data typed)
    (parted : other.toList = hrp ++ separator :: typed)
    (single : Text.isMixedCase other.toList = false) :
    Reads limit other hrp typed where
  toList_eq := parted
  hrp_ne_nil := reads.hrp_ne_nil
  hrp_characters := reads.hrp_characters
  data_symbols := replaced.isSymbol_of_mem reads.data_symbols
  long_enough := by
    rw [replaced.length_eq]
    exact reads.long_enough
  single_case := single
  length_le := by
    have fits := reads.length_le
    rw [reads.toList_eq, List.length_append, List.length_cons] at fits
    rw [parted, List.length_append, List.length_cons, replaced.length_eq]
    exact fits

theorem Reads.length_data_le {limit : Nat} {text : String} {hrp data : List Char}
    (reads : Reads limit text hrp data) : data.length ≤ limit := by
  have fits := reads.length_le
  rw [reads.toList_eq, List.length_append, List.length_cons] at fits
  omega

/-- A mistyped text is read up to its checksum, and its residue is off by that of as
many words as symbols were mistyped. -/
theorem exists_differences {limit count : Nat} {text other : String} {parts : Parts}
    (read : decode limit text = .ok parts) (mistyped : Mistyped count text other) :
    ∃ hrp words differences,
      decode limit other = verify hrp words ∧
        residue hrp words =
          parts.variant.constant ^^^ Residue.absorbAll 0 differences ∧
        differences.countP (· ≠ 0) = count ∧ differences.length ≤ limit := by
  rcases decode_eq_ok_iff_reads.mp read with ⟨hrp, data, reads, verified⟩
  rcases mistyped.replaced with ⟨before, after, typed, parted, absent, otherSplit,
    replaced⟩
  rcases reads.split_unique parted absent with ⟨rfl, rfl⟩
  have otherReads := reads.of_replaced replaced otherSplit mistyped.single_case
  have lengths := length_ofSymbols reads.data_symbols
  have same :
      (Word.ofSymbols after).length = (Word.ofSymbols typed).length := by
    rw [lengths, length_ofSymbols otherReads.data_symbols, replaced.length_eq]
  refine ⟨_, _, List.zipWith (· ^^^ ·) (Word.ofSymbols after) (Word.ofSymbols typed),
    decode_of_reads otherReads, ?_,
    replaced.countP_zipWith_xor reads.data_symbols, ?_⟩
  · rw [← residue_xor_residue _ same, (verify_eq_ok_iff.mp verified).1,
      Residue.xor_xor_cancel_left]
  · rw [List.length_zipWith, ← same, Nat.min_self, lengths]
    exact reads.length_data_le

namespace Variant

theorem constant_xor_eq_constant_iff {first second : Variant} {residue : Residue} :
    first.constant ^^^ residue = second.constant ↔
      residue = if first = second then 0 else difference := by
  have apart :
      first.constant ^^^ second.constant =
        if first = second then 0 else difference := by
    cases first <;> cases second <;> decide
  rw [← apart]
  constructor
  · intro same
    rw [← same, Residue.xor_xor_cancel_left]
  · rintro rfl
    rw [Residue.xor_xor_cancel_left]

end Variant

/-- A single mistyped symbol is noticed in texts of any length and of both
variants. -/
theorem decode_of_single_mistyped (limit : Nat) (text other : String)
    (parts : Parts) (read : decode limit text = .ok parts)
    (mistyped : Mistyped 1 text other) :
    decode limit other = .error .invalidChecksum := by
  rcases exists_differences read mistyped with
    ⟨hrp, words, differences, decoded, off, single, -⟩
  rw [decoded, verify_eq_error_iff]
  refine ⟨rfl, ?_⟩
  intro variant remains
  rw [off, Variant.constant_xor_eq_constant_iff] at remains
  split at remains
  · exact Residue.absorbAll_ne_zero_of_single single remains
  · exact Residue.absorbAll_ne_difference single remains

/-- A symbol of the checksum is mistyped, behind a human-readable part of
separators. -/
theorem decode_of_single_mistyped_separators :
    decode 11 "111lqezj7uy" =
        .ok { hrp := "11", words := [31, 0], variant := .bech32m } ∧
      Mistyped 1 "111lqezj7uy" "111lqqzj7uy" ∧
      decode 11 "111lqqzj7uy" = .error .invalidChecksum := by
  have read : decode 11 "111lqezj7uy" =
      .ok { hrp := "11", words := [31, 0], variant := .bech32m } := by
    cbv
  have mistyped : Mistyped 1 "111lqezj7uy" "111lqqzj7uy" := {
    replaced := ⟨['1', '1'], "lqezj7uy".toList, "lqqzj7uy".toList, by decide,
      by decide, by decide,
      .append_left ['l', 'q'] (.replace (by decide) (by decide)
        (.refl "zj7uy".toList))⟩
    single_case := by decide }
  exact ⟨read, mistyped, decode_of_single_mistyped _ _ _ _ read mistyped⟩

/-- Up to three mistyped symbols are noticed in a text of up to 1023 characters,
unless they make it one of the other variant. -/
theorem decode_of_few_mistyped {limit count : Nat} {text other : String}
    {parts : Parts} (short : limit ≤ 1023) (positive : 0 < count) (few : count ≤ 3)
    (read : decode limit text = .ok parts) (mistyped : Mistyped count text other) :
    decode limit other = .error .invalidChecksum ∨
      ∃ otherParts, decode limit other = .ok otherParts ∧
        otherParts.variant ≠ parts.variant := by
  rcases exists_differences read mistyped with
    ⟨hrp, words, differences, decoded, off, rfl, within⟩
  rw [decoded]
  cases verified : verify hrp words with
  | error cause =>
      left
      rw [(verify_eq_error_iff.mp verified).1]
  | ok otherParts =>
      right
      refine ⟨otherParts, rfl, ?_⟩
      intro same
      have remainder := (verify_eq_ok_iff.mp verified).1
      rw [off, Variant.constant_xor_eq_constant_iff, if_pos same.symm] at remainder
      exact Residue.absorbAll_ne_zero_of_few positive few (within.trans short) remainder

end NostrEntities.Bech32
