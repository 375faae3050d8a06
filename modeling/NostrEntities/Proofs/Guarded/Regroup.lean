import NostrEntities.Proofs.Bech32.Regroup
import NostrEntities.Proofs.Guarded.Basic

/-!
# Regrouping on a machine

A machine regroups with one register of 32 bits and never clears the bits that it has
written: they move on towards the high end until a mask cuts them off, one bit short of
the two widths together. The bits that still wait are the low ones, so the result is
that of regrouping, and neither the shifts nor the differences go out of range.
-/

namespace NostrEntities

namespace Bech32

open Guarded

/-- Bits that wait to be written: the low `count` bits of `value`. The bits above them
are remains of what is written already. -/
structure Accumulator where
  value : UInt32
  count : Nat
  deriving DecidableEq, Repr

namespace Accumulator

/-- The accumulator without any bits. -/
def empty : Accumulator := ⟨0, 0⟩

/-- Write values as long as enough bits wait, in a limited number of rounds. -/
def drain (target : Nat) (mask : UInt32) (rounds : Nat)
    (accumulator : Accumulator) : Guarded Error (List UInt8 × Accumulator) :=
  if accumulator.count < target then pure ([], accumulator)
  else
    match rounds with
    | 0 => stop .unfinished
    | rounds + 1 => do
        let count ← subtract accumulator.count target
        let top ← shiftRight accumulator.value count
        let (values, rest) ← drain target mask rounds { accumulator with count }
        return ((top &&& mask).toUInt8 :: values, rest)

/-- Append the bits of a value that has no more than `source` of them, and write what is
complete. Every round takes at least one bit. -/
def feed (source target : Nat) (mask room : UInt32) (accumulator : Accumulator)
    (value : UInt8) : Guarded Error (List UInt8 × Accumulator) := do
  let excess ← shiftRight value.toUInt32 source
  if excess = 0 then
    let moved ← shiftLeft accumulator.value source
    let count ← add accumulator.count source
    drain target mask count
      { value := (moved ||| value.toUInt32) &&& room, count }
  else fail (.invalidWord value)

/-- Pass a list of values through the accumulator. -/
def feedAll (source target : Nat) (mask room : UInt32) :
    Accumulator → List UInt8 → Guarded Error (List UInt8 × Accumulator)
  | accumulator, [] => pure ([], accumulator)
  | accumulator, value :: rest => do
      let (written, following) ← accumulator.feed source target mask room value
      let (others, final) ← feedAll source target mask room following rest
      return (written ++ others, final)

/-- The bits that wait, moved to the high end of a value. -/
def last (target : Nat) (mask : UInt32) (accumulator : Accumulator) :
    Guarded Error UInt32 := do
  let gap ← subtract target accumulator.count
  let moved ← shiftLeft accumulator.value gap
  return moved &&& mask

/-- What is written for the bits that wait at the end: one more value if there are any,
or nothing if they can be left out. -/
def finish (source target : Nat) (mask : UInt32) (padded : Bool)
    (accumulator : Accumulator) : Guarded Error (List UInt8) :=
  if padded then
    if 0 < accumulator.count then do
      let value ← accumulator.last target mask
      return [value.toUInt8]
    else return []
  else if source ≤ accumulator.count then fail .nonCanonicalPadding
  else do
    let value ← accumulator.last target mask
    if value = 0 then return [] else fail .nonCanonicalPadding

end Accumulator

/-- Regroup between widths that are given as numbers. -/
def guardedRegroupBits (source target : Nat) (padded : Bool) (values : List UInt8) :
    Guarded Error (List UInt8) :=
  if (1 ≤ source ∧ source ≤ 8) ∧ 1 ≤ target ∧ target ≤ 8 then do
    let mask ← ones target
    let together ← add source target
    let below ← subtract together 1
    let room ← ones below
    -- A machine sets memory aside for the result before the first value is read.
    let _ ← divide (values.length * source) target
    let (written, rest) ←
      Accumulator.empty.feedAll source target mask room values
    let others ← rest.finish source target mask padded
    return written ++ others
  else fail (.invalidWidth source target)

/-! ## The bits that wait -/

/-- The ones that keep a value within a width. -/
def Width.mask (width : Width) : UInt32 :=
  (2 ^ width.bits - 1).toUInt32

/-- The ones that keep an accumulator below the two widths together. -/
def Width.room (source target : Width) : UInt32 :=
  (2 ^ (source.bits + target.bits - 1) - 1).toUInt32

namespace Accumulator

/-- An accumulator stands for a register: the same bits wait in both. -/
structure Holds (source target : Width) (accumulator : Accumulator)
    (register : Register) : Prop where
  count_eq : accumulator.count = register.count
  waiting_eq : accumulator.value.toNat % 2 ^ register.count =
    register.value.toNat
  bounded : accumulator.value.toNat < 2 ^ (source.bits + target.bits - 1)

variable {source target : Width} {accumulator : Accumulator}
  {register : Register} {value : UInt8}

theorem holds_empty : Holds source target empty .empty :=
  ⟨rfl, rfl, Nat.two_pow_pos _⟩

namespace Holds

theorem sound (holds : Holds source target accumulator register) :
    register.Sound := by
  rw [Register.Sound, ← holds.waiting_eq]
  exact Nat.mod_lt _ (Nat.two_pow_pos _)

/-- There is room for another value, and for another after that. -/
theorem shift_lt (holds : Holds source target accumulator register) {places : Nat}
    (few : places ≤ 8) : accumulator.value.toNat * 2 ^ places < 2 ^ 32 := by
  have sourceLe := source.le_eight
  have targetLe := target.le_eight
  calc
    accumulator.value.toNat * 2 ^ places
      < 2 ^ (source.bits + target.bits - 1) * 2 ^ places :=
        Nat.mul_lt_mul_of_pos_right holds.bounded (Nat.two_pow_pos places)
    _ = 2 ^ (source.bits + target.bits - 1 + places) := (Nat.pow_add ..).symm
    _ ≤ 2 ^ 32 := Nat.pow_le_pow_right (by decide) (by omega)

/-- The bits that wait are no more than the accumulator. -/
theorem waiting_shift_lt (holds : Holds source target accumulator register)
    {places : Nat} (few : places ≤ 8) :
    register.value.toNat * 2 ^ places < 2 ^ 32 := by
  refine Nat.lt_of_le_of_lt (Nat.mul_le_mul_right _ ?_) (holds.shift_lt few)
  rw [← holds.waiting_eq]
  exact Nat.mod_le _ _

/-- The accumulator after a value is taken off: only the count changes. -/
theorem drop (holds : Holds source target accumulator register)
    (small : register.count < 32) (enough : target.bits ≤ register.count) :
    Holds source target
      { accumulator with count := accumulator.count - target.bits }
      (register.drop target) := by
  have positive := target.pos
  refine ⟨?_, ?_, holds.bounded⟩
  · show accumulator.count - target.bits = register.count - target.bits
    rw [holds.count_eq]
  · show accumulator.value.toNat % 2 ^ (register.count - target.bits) =
      (register.value &&& _).toNat
    rw [Register.toNat_mask _ (by omega), ← holds.waiting_eq,
      Nat.mod_mod_of_dvd _ (Nat.pow_dvd_pow 2 (Nat.sub_le _ _))]

/-- The value at the top of the bits that wait. -/
theorem top_eq (holds : Holds source target accumulator register)
    (small : register.count < 32) (enough : target.bits ≤ register.count) :
    ((accumulator.value >>> (register.count - target.bits).toUInt32) &&&
        target.mask).toUInt8 = register.top target := by
  have positive := target.pos
  have targetLe := target.le_eight
  apply UInt8.toNat_inj.mp
  rw [Register.top, UInt32.toNat_toUInt8, UInt32.toNat_toUInt8, Width.mask,
    toNat_and_ones _ (by omega), Register.toNat_shiftRight _ (by omega),
    Register.toNat_shiftRight _ (by omega), ← holds.waiting_eq]
  have parted : 2 ^ register.count =
      2 ^ (register.count - target.bits) * 2 ^ target.bits := by
    rw [← Nat.pow_add, Nat.sub_add_cancel enough]
  rw [parted, Nat.mod_mul_right_div_self]

/-- The accumulator after the bits of a value are appended. What the mask cuts off was
written before. -/
theorem push (holds : Holds source target accumulator register)
    (short : register.count < target.bits) (fits : source.fits value = true) :
    Holds source target
      { value := ((accumulator.value <<< source.bits.toUInt32) |||
          value.toUInt32) &&& source.room target
        count := accumulator.count + source.bits }
      (register.push source value) := by
  have sourceLe := source.le_eight
  have targetLe := target.le_eight
  have valueLt := Width.fits_iff.mp fits
  have joined : ((accumulator.value <<< source.bits.toUInt32) |||
      value.toUInt32).toNat =
        accumulator.value.toNat * 2 ^ source.bits + value.toNat := by
    rw [UInt32.toNat_or,
      Register.toNat_shiftLeft (by omega) (holds.shift_lt sourceLe),
      UInt8.toNat_toUInt32, ← Nat.shiftLeft_eq, Nat.shiftLeft_add_eq_or_of_lt valueLt]
  refine ⟨congrArg (· + source.bits) holds.count_eq, ?_, ?_⟩
  · show (_ &&& source.room target).toNat % 2 ^ (register.count + source.bits) = _
    have high : (accumulator.value.toNat * 2 ^ source.bits + value.toNat) /
        2 ^ source.bits = accumulator.value.toNat := by
      rw [Nat.mul_comm, Nat.mul_add_div (Nat.two_pow_pos _),
        Nat.div_eq_of_lt valueLt, Nat.add_zero]
    have low : (accumulator.value.toNat * 2 ^ source.bits + value.toNat) %
        2 ^ source.bits = value.toNat := by
      rw [Nat.mul_comm, Nat.mul_add_mod, Nat.mod_eq_of_lt valueLt]
    rw [Register.toNat_push holds.sound (by omega) fits, ← holds.waiting_eq,
      Width.room, toNat_and_ones _ (by omega),
      Nat.mod_mod_of_dvd _ (Nat.pow_dvd_pow 2 (by omega)), joined,
      Nat.add_comm register.count, Nat.pow_add, Nat.mod_mul, high, low, Nat.add_comm,
      Nat.mul_comm]
  · show (_ &&& source.room target).toNat < _
    rw [Width.room, toNat_and_ones _ (by omega)]
    exact Nat.mod_lt _ (Nat.two_pow_pos _)

end Holds

/-! ## No step is out of range -/

/-- The rounds are enough to write every value that is complete. -/
theorem drain_eq_pure {rounds : Nat}
    (holds : Holds source target accumulator register)
    (small : register.count < 32) (enough : register.count ≤ rounds) :
    ∃ rest, accumulator.drain target.bits target.mask rounds =
        pure ((register.take target (register.count / target.bits)).1, rest) ∧
      Holds source target rest
        (register.take target (register.count / target.bits)).2 := by
  have positive := target.pos
  induction rounds generalizing accumulator register with
  | zero =>
      have noGroups : register.count / target.bits = 0 := by
        rw [Nat.le_zero.mp enough, Nat.zero_div]
      rw [noGroups, drain, if_pos (by rw [holds.count_eq]; omega)]
      exact ⟨accumulator, rfl, holds⟩
  | succ rounds ih =>
      rw [drain, holds.count_eq]
      split
      · rename_i few
        rw [Nat.div_eq_of_lt few]
        exact ⟨accumulator, rfl, holds⟩
      · rename_i notFew
        have complete : target.bits ≤ register.count := Nat.not_lt.mp notFew
        have dropped := holds.drop small complete
        rw [holds.count_eq] at dropped
        rcases ih dropped
          (show register.count - target.bits < 32 by omega)
          (show register.count - target.bits ≤ rounds by omega) with
          ⟨rest, drained, restHolds⟩
        rw [subtract_eq_pure complete, pure_bind, shiftRight_eq_pure (by omega),
          pure_bind, drained, pure_bind, holds.top_eq small complete,
          Nat.div_eq_sub_div positive complete]
        exact ⟨rest, rfl, restHolds⟩

theorem excess_eq_zero_iff :
    value.toUInt32 >>> source.bits.toUInt32 = 0 ↔ source.fits value = true := by
  have sourceLe := source.le_eight
  rw [← UInt32.toNat_inj, Register.toNat_shiftRight _ (by omega),
    UInt8.toNat_toUInt32, Width.fits, beq_iff_eq, Nat.shiftRight_eq_div_pow]
  rfl

theorem feed_of_misfit (misfit : ¬ source.fits value = true) :
    accumulator.feed source.bits target.bits target.mask (source.room target) value =
      fail (.invalidWord value) := by
  have sourceLe := source.le_eight
  rw [feed, shiftRight_eq_pure (by omega), pure_bind,
    if_neg (mt excess_eq_zero_iff.mp misfit)]

theorem feed_eq_pure (holds : Holds source target accumulator register)
    (short : register.count < target.bits) (fits : source.fits value = true) :
    ∃ rest,
      accumulator.feed source.bits target.bits target.mask (source.room target)
          value =
        pure ((register.feed source target value).1, rest) ∧
      Holds source target rest (register.feed source target value).2 := by
  have sourceLe := source.le_eight
  have targetLe := target.le_eight
  have pushed := holds.push short fits
  have count : (register.push source value).count =
      accumulator.count + source.bits := by
    rw [holds.count_eq]
    rfl
  have bound : accumulator.count + source.bits < 32 := by
    rw [holds.count_eq]
    omega
  rcases drain_eq_pure pushed (by rw [count]; exact bound) (Nat.le_of_eq count) with
    ⟨rest, drained, restHolds⟩
  refine ⟨rest, ?_, restHolds⟩
  rw [feed, shiftRight_eq_pure (by omega), pure_bind,
    if_pos (excess_eq_zero_iff.mpr fits),
    shiftLeft_eq_pure (by omega) (holds.shift_lt sourceLe), pure_bind,
    add_eq_pure (by omega), pure_bind]
  exact drained

/-- The first value that does not fit is refused, whatever was written before. -/
theorem feedAll_of_misfit {values : List UInt8}
    (holds : Holds source target accumulator register)
    (short : register.count < target.bits)
    (misfit : values.find? (fun value => !source.fits value) = some value) :
    accumulator.feedAll source.bits target.bits target.mask (source.room target)
        values =
      fail (.invalidWord value) := by
  induction values generalizing accumulator register with
  | nil => cases misfit
  | cons first rest ih =>
      rw [feedAll]
      by_cases fits : source.fits first = true
      · rw [List.find?_cons_of_neg (by simp [fits])] at misfit
        rcases feed_eq_pure holds short fits with ⟨following, fed, followingHolds⟩
        have refused :=
          ih followingHolds (Register.count_feed register source target first) misfit
        rw [fed, pure_bind]
        dsimp only
        rw [refused, fail_bind]
      · rw [List.find?_cons_of_pos (by simp [fits])] at misfit
        cases misfit
        rw [feed_of_misfit fits, fail_bind]

theorem feedAll_eq_pure {values : List UInt8}
    (holds : Holds source target accumulator register)
    (short : register.count < target.bits)
    (fits : ∀ value ∈ values, source.fits value = true) :
    ∃ rest,
      accumulator.feedAll source.bits target.bits target.mask (source.room target)
          values =
        pure ((register.feedAll source target values).1, rest) ∧
      Holds source target rest (register.feedAll source target values).2 := by
  induction values generalizing accumulator register with
  | nil => exact ⟨accumulator, rfl, holds⟩
  | cons first others ih =>
      rcases feed_eq_pure holds short (fits first List.mem_cons_self) with
        ⟨following, fed, followingHolds⟩
      rcases ih followingHolds (Register.count_feed register source target first)
        (fun value member => fits value (List.mem_cons_of_mem _ member)) with
        ⟨rest, fedAll, restHolds⟩
      refine ⟨rest, ?_, restHolds⟩
      rw [feedAll, fed, pure_bind]
      dsimp only
      rw [fedAll, pure_bind]
      rfl

/-! ## The end of the stream -/

theorem last_eq_pure (holds : Holds source target accumulator register)
    (short : register.count < target.bits) :
    accumulator.last target.bits target.mask =
      pure (register.value <<< (target.bits - register.count).toUInt32) := by
  have targetLe := target.le_eight
  have masked : (accumulator.value <<<
      (target.bits - register.count).toUInt32) &&& target.mask =
        register.value <<< (target.bits - register.count).toUInt32 := by
    rw [← UInt32.toNat_inj, Width.mask, toNat_and_ones _ (by omega),
      Register.toNat_shiftLeft (by omega) (holds.shift_lt (by omega)),
      Register.toNat_shiftLeft (by omega) (holds.waiting_shift_lt (by omega)),
      ← holds.waiting_eq, ← Nat.mul_mod_mul_right, ← Nat.pow_add,
      Nat.add_sub_cancel' (Nat.le_of_lt short)]
  rw [last, holds.count_eq, subtract_eq_pure (Nat.le_of_lt short), pure_bind,
    shiftLeft_eq_pure (by omega) (holds.shift_lt (by omega)), pure_bind, masked]

/-- Filling up adds zeros only, so they cannot make up for a bit that is set. -/
theorem last_eq_zero_iff (holds : Holds source target accumulator register) :
    register.value <<< (target.bits - register.count).toUInt32 = 0 ↔
      register.value = 0 := by
  have targetLe := target.le_eight
  rw [← UInt32.toNat_inj, ← UInt32.toNat_inj,
    Register.toNat_shiftLeft (by omega) (holds.waiting_shift_lt (by omega)),
    UInt32.toNat_zero, Nat.mul_eq_zero]
  exact or_iff_left (Nat.ne_of_gt (Nat.two_pow_pos _))

/-- What is left over is filled up or left out just as in a register. -/
theorem finish_eq (holds : Holds source target accumulator register)
    (short : register.count < target.bits) (padded : Bool) :
    accumulator.finish source.bits target.bits target.mask padded =
      Guarded.ofExcept (
        if padded then .ok (register.padding target)
        else if register.isNegligible source then .ok []
        else .error .nonCanonicalPadding : Except Error (List UInt8)) := by
  rw [finish, last_eq_pure holds short, holds.count_eq]
  cases padded with
  | true =>
      rw [if_pos rfl, if_pos rfl, Register.padding]
      by_cases waiting : register.count = 0
      · rw [if_neg (by omega), if_pos waiting]
        rfl
      · rw [if_pos (by omega), if_neg waiting, pure_bind]
        rfl
  | false =>
      rw [if_neg Bool.false_ne_true, if_neg Bool.false_ne_true]
      by_cases many : source.bits ≤ register.count
      · have kept : ¬ register.isNegligible source = true := by
          simp [Register.isNegligible, Nat.not_lt.mpr many]
        rw [if_pos many, if_neg kept]
        rfl
      · have negligible : register.isNegligible source = true ↔
            register.value = 0 := by
          simp [Register.isNegligible, Nat.not_le.mp many]
        rw [if_neg many, pure_bind]
        by_cases zeros : register.value = 0
        · rw [if_pos ((last_eq_zero_iff holds).mpr zeros),
            if_pos (negligible.mpr zeros)]
          rfl
        · rw [if_neg (mt (last_eq_zero_iff holds).mp zeros),
            if_neg (mt negligible.mp zeros)]
          rfl

end Accumulator

theorem guardedRegroupBits_eq_regroup (source target : Width) (padded : Bool)
    (values : List UInt8) :
    guardedRegroupBits source.bits target.bits padded values =
      Guarded.ofExcept (regroup source target padded values) := by
  have sourceLe := source.le_eight
  have targetLe := target.le_eight
  have sourcePos := source.pos
  have targetPos := target.pos
  rw [guardedRegroupBits, if_pos (by omega), ones_eq_pure (by omega), pure_bind,
    add_eq_pure (by omega), pure_bind, subtract_eq_pure (by omega), pure_bind,
    ones_eq_pure (by omega), pure_bind, divide_eq_pure targetPos, pure_bind, regroup]
  have empty : Accumulator.Holds source target .empty .empty :=
    Accumulator.holds_empty
  cases found : values.find? (fun value => !source.fits value) with
  | some value =>
      have refused := Accumulator.feedAll_of_misfit empty target.pos found
      rw [Width.mask, Width.room] at refused
      rw [refused, fail_bind]
      rfl
  | none =>
      rcases Accumulator.feedAll_eq_pure empty target.pos
        (find?_misfit_eq_none_iff.mp found) with ⟨rest, fed, restHolds⟩
      have short := (cuts_regroup target (find?_misfit_eq_none_iff.mp found)).2
      have finished := Accumulator.finish_eq restHolds short padded
      rw [Width.mask, Width.room] at fed
      rw [Width.mask] at finished
      rw [fed, pure_bind]
      dsimp only
      rw [finished]
      cases padded with
      | true => rfl
      | false =>
          cases (Register.empty.feedAll source target values).2.isNegligible source
          with
          | true =>
              rw [if_neg Bool.false_ne_true, if_neg Bool.false_ne_true, if_pos rfl,
                if_pos rfl, ofExcept_ok, pure_bind, List.append_nil]
              rfl
          | false => rfl

/-- A machine regroups without any fault, and its result is that of regrouping. -/
theorem guardedRegroupBits_eq (source target : Nat) (padded : Bool)
    (values : List UInt8) :
    guardedRegroupBits source target padded values =
      Guarded.ofExcept (regroupBits source target padded values) := by
  rw [regroupBits]
  cases sourceKnown : Width.ofNat? source with
  | none =>
      have outside := Width.ofNat?_eq_none_iff.mp sourceKnown
      rw [guardedRegroupBits, if_neg (by omega)]
      rfl
  | some sourceWidth =>
      cases targetKnown : Width.ofNat? target with
      | none =>
          have outside := Width.ofNat?_eq_none_iff.mp targetKnown
          rw [guardedRegroupBits, if_neg (by omega)]
          rfl
      | some targetWidth =>
          rw [← Width.ofNat?_eq_some_iff.mp sourceKnown,
            ← Width.ofNat?_eq_some_iff.mp targetKnown]
          exact guardedRegroupBits_eq_regroup sourceWidth targetWidth padded values

end Bech32

end NostrEntities
