import Mathlib.Algebra.Group.Nat.Defs

/-!
# Bits of numbers

The low bits of a number as a list, the highest first. A number below a power of
two is determined by that many bits, and the bits of a wide number are those of
its high part followed by those of its low part. In the other direction every list
of bits writes a number, of which it is the bits.
-/

namespace NostrEntities

/-- The low `count` bits of a number, the highest first. -/
def lowBits : (count value : Nat) → List Bool
  | 0, _ => []
  | count + 1, value => value.testBit count :: lowBits count value

@[simp] theorem length_lowBits (count value : Nat) :
    (lowBits count value).length = count := by
  induction count with
  | zero => rfl
  | succ count ih => rw [lowBits, List.length_cons, ih]

theorem lowBits_congr {count first second : Nat}
    (same : ∀ place < count, first.testBit place = second.testBit place) :
    lowBits count first = lowBits count second := by
  induction count with
  | zero => rfl
  | succ count ih =>
      rw [lowBits, lowBits, same count (Nat.lt_succ_self count), ih]
      intro place below
      exact same place (Nat.lt_succ_of_lt below)

/-- Bits above those that are listed do not matter. -/
theorem lowBits_mod (count value : Nat) :
    lowBits count (value % 2 ^ count) = lowBits count value := by
  apply lowBits_congr
  intro place below
  simp [Nat.testBit_mod_two_pow, below]

theorem lowBits_add (high low value : Nat) :
    lowBits (high + low) value =
      lowBits high (value / 2 ^ low) ++ lowBits low value := by
  induction high with
  | zero => rw [Nat.zero_add, lowBits, List.nil_append]
  | succ high ih =>
      rw [Nat.succ_add, lowBits, lowBits, ih, Nat.testBit_div_two_pow,
        List.cons_append]

/-- The listed bits determine the number up to multiples of the power of two. -/
theorem mod_eq_of_lowBits_eq {count first second : Nat}
    (same : lowBits count first = lowBits count second) :
    first % 2 ^ count = second % 2 ^ count := by
  apply Nat.eq_of_testBit_eq
  intro place
  rw [Nat.testBit_mod_two_pow, Nat.testBit_mod_two_pow]
  by_cases below : place < count
  · rw [decide_eq_true below, Bool.true_and, Bool.true_and]
    induction count with
    | zero => exact absurd below (Nat.not_lt_zero place)
    | succ count ih =>
        rw [lowBits, lowBits, List.cons.injEq] at same
        rcases Nat.lt_succ_iff_lt_or_eq.mp below with smaller | rfl
        · exact ih same.2 smaller
        · exact same.1
  · rw [decide_eq_false below, Bool.false_and, Bool.false_and]

theorem lowBits_zero (count : Nat) :
    lowBits count 0 = List.replicate count false := by
  induction count with
  | zero => rfl
  | succ count ih =>
      rw [lowBits, ih, Nat.zero_testBit, List.replicate_succ]

/-- A number that fits is zero exactly when all its bits are. -/
theorem lowBits_eq_replicate_iff {count value : Nat} (fits : value < 2 ^ count) :
    lowBits count value = List.replicate count false ↔ value = 0 := by
  rw [← lowBits_zero]
  constructor
  · intro same
    have equal := mod_eq_of_lowBits_eq same
    rwa [Nat.mod_eq_of_lt fits, Nat.zero_mod] at equal
  · intro zero
    rw [zero]

/-- Zeros that are appended shift the number. -/
theorem lowBits_append_zeros (count zeros value : Nat) :
    lowBits count value ++ List.replicate zeros false =
      lowBits (count + zeros) (value * 2 ^ zeros) := by
  rw [lowBits_add, Nat.mul_div_cancel _ (Nat.two_pow_pos zeros),
    ← lowBits_mod zeros, Nat.mul_mod_left, lowBits_zero]

/-! ## Numbers that bits write -/

/-- The number that bits write, the highest first. -/
def numberOf (bits : List Bool) : Nat :=
  (BitVec.ofBoolListBE bits).toNat

theorem numberOf_lt (bits : List Bool) : numberOf bits < 2 ^ bits.length :=
  (BitVec.ofBoolListBE bits).isLt

theorem numberOf_cons (bit : Bool) (rest : List Bool) :
    numberOf (bit :: rest) = 2 ^ rest.length * bit.toNat + numberOf rest := by
  rw [numberOf, BitVec.ofBoolListBE, BitVec.toNat_cons, Nat.shiftLeft_eq,
    Nat.mul_comm, Nat.two_pow_add_eq_or_of_lt (numberOf_lt rest)]
  rfl

/-- Bits are the bits of the number that they write. -/
theorem lowBits_numberOf (bits : List Bool) :
    lowBits bits.length (numberOf bits) = bits := by
  induction bits with
  | nil => rfl
  | cons bit rest ih =>
      rw [List.length_cons, lowBits, numberOf_cons]
      congr 1
      · rw [Nat.testBit_two_pow_mul_add _ (numberOf_lt rest)]
        cases bit <;> simp
      · rw [← lowBits_mod, Nat.mul_add_mod, lowBits_mod, ih]

end NostrEntities
