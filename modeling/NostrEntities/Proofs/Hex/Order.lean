import Mathlib
import NostrEntities.Proofs.Hex

/-!
# The order of hexadecimal texts

The sixteen digits are in the order of the values they stand for, letters behind
numerals, and every byte takes two of them. So comparing two byte strings from the front
and comparing their texts from the front find the first difference at the same place.
Keys and their texts are therefore sorted alike.
-/

namespace NostrEntities.Hex

variable {α β : Type} [LT α] [LT β]

/-! ## Pieces of one width -/

/-- Behind pieces of the same length the rest decides only when the pieces agree. -/
theorem append_lt_append_iff {first second left right : List β}
    (same : first.length = second.length) :
    first ++ left < second ++ right ↔
      first < second ∨ first = second ∧ left < right := by
  induction first generalizing second with
  | nil =>
      cases second with
      | nil => simp
      | cons => cases same
  | cons head tail ih =>
      cases second with
      | nil => cases same
      | cons other others =>
          rw [List.cons_append, List.cons_append, List.cons_lt_cons_iff,
            List.cons_lt_cons_iff, ih (by simpa using same), List.cons.injEq]
          tauto

/-- A list is before another exactly when the list of its pieces is, if all pieces have
one width and single pieces are in order. -/
theorem flatMap_lt_flatMap_iff {piece : α → List β} {width : Nat}
    (length : ∀ value, (piece value).length = width) (positive : 0 < width)
    (ordered : ∀ first second, piece first < piece second ↔ first < second)
    (injective : Function.Injective piece) (first second : List α) :
    first.flatMap piece < second.flatMap piece ↔ first < second := by
  have nonempty : ∀ value rest, ∃ head tail, piece value ++ rest = head :: tail := by
    intro value rest
    apply List.exists_cons_of_ne_nil
    intro empty
    have lengths := congrArg List.length (List.append_eq_nil_iff.mp empty).1
    rw [length, List.length_nil] at lengths
    omega
  induction first generalizing second with
  | nil =>
      cases second with
      | nil => simp
      | cons other others =>
          rw [List.flatMap_nil, List.flatMap_cons]
          rcases nonempty other (others.flatMap piece) with ⟨head, tail, parted⟩
          rw [parted]
          exact iff_of_true (List.nil_lt_cons _ _) (List.nil_lt_cons _ _)
  | cons value rest ih =>
      cases second with
      | nil =>
          rw [List.flatMap_nil]
          exact iff_of_false (List.not_lt_nil _) (List.not_lt_nil _)
      | cons other others =>
          rw [List.flatMap_cons, List.flatMap_cons,
            append_lt_append_iff ((length value).trans (length other).symm),
            ordered, injective.eq_iff, List.cons_lt_cons_iff]
          simp only [ih]

/-! ## Digits -/

section Halves

variable {digit : Nat → β}

/-- A byte is before another exactly when its two digits are, whatever stands for the
digits, as long as their order is kept. -/
theorem halves_lt_halves_iff
    (ordered : ∀ high < 16, ∀ low < 16, digit high < digit low ↔ high < low)
    (distinct : ∀ high < 16, ∀ low < 16, digit high = digit low ↔ high = low)
    (first second : UInt8) :
    [digit (first.toNat / 16), digit (first.toNat % 16)] <
        [digit (second.toNat / 16), digit (second.toNat % 16)] ↔ first < second := by
  have firstBound := first.toNat_lt
  have secondBound := second.toNat_lt
  have firstHigh : first.toNat / 16 < 16 := by omega
  have secondHigh : second.toNat / 16 < 16 := by omega
  have firstLow : first.toNat % 16 < 16 := Nat.mod_lt _ (by decide)
  have secondLow : second.toNat % 16 < 16 := Nat.mod_lt _ (by decide)
  rw [List.cons_lt_cons_iff, List.cons_lt_cons_iff,
    ordered _ firstHigh _ secondHigh, distinct _ firstHigh _ secondHigh,
    ordered _ firstLow _ secondLow, UInt8.lt_iff_toNat_lt]
  simp only [List.not_lt_nil, and_false, or_false]
  omega

omit [LT β] in
theorem halves_injective
    (distinct : ∀ high < 16, ∀ low < 16, digit high = digit low ↔ high = low) :
    Function.Injective fun byte : UInt8 =>
      [digit (byte.toNat / 16), digit (byte.toNat % 16)] := by
  intro first second same
  have firstBound := first.toNat_lt
  have secondBound := second.toNat_lt
  rw [List.cons.injEq, List.cons.injEq] at same
  rcases same with ⟨high, low, -⟩
  rw [distinct _ (by omega) _ (by omega)] at high low
  apply UInt8.toNat_inj.mp
  omega

end Halves

/-- The digits that are written, letters behind numerals. -/
theorem digitChar_lt_digitChar_iff :
    ∀ high < 16, ∀ low < 16, Nat.digitChar high < Nat.digitChar low ↔ high < low := by
  decide

theorem digitChar_eq_digitChar_iff :
    ∀ high < 16, ∀ low < 16, Nat.digitChar high = Nat.digitChar low ↔ high = low := by
  decide

theorem digitByte_lt_digitByte_iff :
    ∀ high < 16, ∀ low < 16, digitByte high < digitByte low ↔ high < low := by
  decide

theorem digitByte_eq_digitByte_iff :
    ∀ high < 16, ∀ low < 16, digitByte high = digitByte low ↔ high = low := by
  decide

/-! ## Texts -/

theorem encode_lt_encode_iff (first second : List UInt8) :
    encode first < encode second ↔ first < second := by
  rw [String.lt_iff, encode, encode, String.toList_ofList, String.toList_ofList]
  exact flatMap_lt_flatMap_iff length_digits Nat.two_pos
    (halves_lt_halves_iff digitChar_lt_digitChar_iff digitChar_eq_digitChar_iff)
    (halves_injective digitChar_eq_digitChar_iff) first second

theorem length_digitBytes (byte : UInt8) : (digitBytes byte).length = 2 := rfl

/-- The same for texts that are compared by their bytes. -/
theorem utf8Bytes_encode_lt_iff (first second : List UInt8) :
    Text.utf8Bytes (encode first) < Text.utf8Bytes (encode second) ↔
      first < second := by
  rw [utf8Bytes_encode, utf8Bytes_encode]
  exact flatMap_lt_flatMap_iff length_digitBytes Nat.two_pos
    (halves_lt_halves_iff digitByte_lt_digitByte_iff digitByte_eq_digitByte_iff)
    (halves_injective digitByte_eq_digitByte_iff) first second

theorem encode_injective : Function.Injective encode := by
  intro first second same
  have read := decode_encode first
  rw [same, decode_encode, Except.ok.injEq] at read
  exact read.symm

end NostrEntities.Hex

namespace NostrEntities

theorem Bytes32.toHex_injective : Function.Injective Bytes32.toHex := by
  intro first second same
  exact Bytes32.ext (Hex.encode_injective same)

/-- Comparing 32 bytes comes to comparing their texts. -/
theorem Bytes32.le_eq_decide (first second : Bytes32) :
    first.le second = decide (first.toHex ≤ second.toHex) := by
  have order : second.toHex < first.toHex ↔ second.bytes < first.bytes :=
    Hex.encode_lt_encode_iff second.bytes first.bytes
  have converse : first.toHex ≤ second.toHex ↔ ¬second.bytes < first.bytes := by
    rw [← order, not_lt]
  rw [Bytes32.le, decide_eq_decide.mpr converse, decide_not]

namespace PublicKey

theorem le_iff (first second : PublicKey) :
    first.toBytes32.le second.toBytes32 = true ↔ first.toHex ≤ second.toHex := by
  rw [Bytes32.le_eq_decide, decide_eq_true_iff]

theorem eq_of_toHex_eq {first second : PublicKey}
    (same : first.toHex = second.toHex) : first = second := by
  cases first
  cases second
  exact congrArg PublicKey.mk (Bytes32.toHex_injective same)

/-- Sorting gives the one arrangement of the keys in which none is before its
predecessor. -/
theorem eq_sort_iff {keys sorted : List PublicKey} :
    sorted = sort keys ↔
      sorted.Perm keys ∧
        sorted.Pairwise fun first second =>
          first.toBytes32.le second.toBytes32 = true := by
  have ordered : (sort keys).Pairwise fun first second =>
      first.toBytes32.le second.toBytes32 = true := by
    apply List.pairwise_mergeSort
    · intro first second third
      rw [le_iff, le_iff, le_iff]
      exact le_trans
    · intro first second
      rw [Bool.or_eq_true, le_iff, le_iff]
      exact le_total _ _
  have arranged : (sort keys).Perm keys := List.mergeSort_perm _ _
  constructor
  · rintro rfl
    exact ⟨arranged, ordered⟩
  · rintro ⟨same, inOrder⟩
    refine List.Perm.eq_of_pairwise ?_ inOrder ordered (same.trans arranged.symm)
    intro first second _ _ before after
    rw [le_iff] at before after
    exact eq_of_toHex_eq (le_antisymm before after)

/-- The texts of the sorted keys are the one arrangement of the texts of the keys that is
in order. -/
theorem eq_map_toHex_sort_iff {keys : List PublicKey} {texts : List String} :
    texts = (sort keys).map (fun key => key.toHex) ↔
      texts.Perm (keys.map fun key => key.toHex) ∧ texts.Pairwise (· ≤ ·) := by
  rcases eq_sort_iff.mp (rfl : sort keys = sort keys) with ⟨arranged, ordered⟩
  have textsOrdered :
      ((sort keys).map fun key => key.toHex).Pairwise (· ≤ ·) :=
    ordered.map _ fun first second before => (le_iff first second).mp before
  constructor
  · rintro rfl
    exact ⟨arranged.map _, textsOrdered⟩
  · rintro ⟨same, inOrder⟩
    exact List.Perm.eq_of_pairwise (fun _ _ _ _ => le_antisymm) inOrder textsOrdered
      (same.trans (arranged.map _).symm)

/-- Byte strings are in the order of their hexadecimal texts, character by character or
byte by byte. Keys compare as their texts do, so sorting keys and sorting their texts
gives the same list, however it is sorted. -/
theorem encode_lt_iff_and_map_toHex_sort :
    (∀ first second : List UInt8,
      (first < second ↔ Hex.encode first < Hex.encode second) ∧
        (first < second ↔
          Text.utf8Bytes (Hex.encode first) < Text.utf8Bytes (Hex.encode second))) ∧
    (∀ first second : PublicKey,
      first.toBytes32.le second.toBytes32 = decide (first.toHex ≤ second.toHex) ∧
        compareOfLessAndEq first.bytes second.bytes =
          compareOfLessAndEq first.toHex second.toHex) ∧
    (∀ keys sorted : List PublicKey,
      sorted = sort keys ↔
        sorted.Perm keys ∧
          sorted.Pairwise fun first second =>
            first.toBytes32.le second.toBytes32 = true) ∧
    ∀ (keys : List PublicKey) (texts : List String),
      texts = (sort keys).map (fun key => key.toHex) ↔
        texts.Perm (keys.map fun key => key.toHex) ∧ texts.Pairwise (· ≤ ·) := by
  refine ⟨?_, ?_, fun _ _ => eq_sort_iff, fun _ _ => eq_map_toHex_sort_iff⟩
  · intro first second
    exact ⟨(Hex.encode_lt_encode_iff first second).symm,
      (Hex.utf8Bytes_encode_lt_iff first second).symm⟩
  · intro first second
    refine ⟨Bytes32.le_eq_decide first.toBytes32 second.toBytes32, ?_⟩
    simp only [compareOfLessAndEq, Bytes32.toHex, Hex.encode_lt_encode_iff,
      Hex.encode_injective.eq_iff]

end PublicKey

end NostrEntities
