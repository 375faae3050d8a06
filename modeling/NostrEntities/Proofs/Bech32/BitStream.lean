import NostrEntities.Bech32.Regroup
import NostrEntities.Proofs.Bits

/-!
# Regrouping as cutting a bit stream

A list of values is a stream of bits, a fixed number for each value. The register
is a queue of bits: whatever passes through it comes out in the same order. So
regrouping keeps the stream, up to the zeros that fill the last value or are left
out behind it.
-/

namespace NostrEntities.Bech32

namespace Width

theorem fits_iff {width : Width} {value : UInt8} :
    width.fits value = true ↔ value.toNat < 2 ^ width.bits := by
  rw [fits, beq_iff_eq, Nat.shiftRight_eq_div_pow, Nat.div_eq_zero_iff]
  have positive := Nat.two_pow_pos width.bits
  omega

/-- The bits of all values, one value after the other. -/
def stream (width : Width) (values : List UInt8) : List Bool :=
  values.flatMap fun value => lowBits width.bits value.toNat

@[simp] theorem stream_nil (width : Width) : width.stream [] = [] := rfl

@[simp] theorem stream_cons (width : Width) (value : UInt8) (rest : List UInt8) :
    width.stream (value :: rest) =
      lowBits width.bits value.toNat ++ width.stream rest := rfl

theorem stream_append (width : Width) (first second : List UInt8) :
    width.stream (first ++ second) = width.stream first ++ width.stream second := by
  rw [stream, List.flatMap_append]
  rfl

@[simp] theorem length_stream (width : Width) (values : List UInt8) :
    (width.stream values).length = width.bits * values.length := by
  induction values with
  | nil => rfl
  | cons value rest ih =>
      rw [stream_cons, List.length_append, length_lowBits, ih, List.length_cons,
        Nat.mul_succ, Nat.add_comm]

/-- Values that fit are determined by their stream. -/
theorem stream_injective {width : Width} {first second : List UInt8}
    (firstFits : ∀ value ∈ first, width.fits value = true)
    (secondFits : ∀ value ∈ second, width.fits value = true)
    (same : width.stream first = width.stream second) : first = second := by
  have positive := width.pos
  induction first generalizing second with
  | nil =>
      have lengths := congrArg List.length same
      cases second with
      | nil => rfl
      | cons value rest =>
          rw [length_stream, length_stream, List.length_cons, Nat.mul_succ] at lengths
          simp at lengths
          omega
  | cons value rest ih =>
      cases second with
      | nil =>
          have lengths := congrArg List.length same
          rw [length_stream, length_stream, List.length_cons, Nat.mul_succ] at lengths
          simp at lengths
          omega
      | cons other others =>
          rw [stream_cons, stream_cons] at same
          rcases List.append_inj same (by simp) with ⟨heads, tails⟩
          have valueLt := fits_iff.mp (firstFits value (by simp))
          have otherLt := fits_iff.mp (secondFits other (by simp))
          have equal := mod_eq_of_lowBits_eq heads
          rw [Nat.mod_eq_of_lt valueLt, Nat.mod_eq_of_lt otherLt] at equal
          rw [UInt8.toNat_inj.mp equal, ih
            (fun member inRest => firstFits member (List.mem_cons_of_mem _ inRest))
            (fun member inRest => secondFits member (List.mem_cons_of_mem _ inRest))
            tails]

end Width

namespace Register

/-- The bits that wait in a register, the highest first. -/
def waiting (register : Register) : List Bool :=
  lowBits register.count register.value.toNat

/-- No bit of the register stands above those that wait. -/
def Sound (register : Register) : Prop :=
  register.value.toNat < 2 ^ register.count

theorem waiting_empty : empty.waiting = [] := rfl

theorem sound_empty : empty.Sound := by
  rw [Sound]
  decide

/-! ## Words of 32 bits -/

theorem toNat_toUInt32 {count : Nat} (small : count < 32) :
    count.toUInt32.toNat % 32 = count := by
  rw [Nat.toUInt32, UInt32.toNat_ofNat']
  omega

theorem toNat_shiftLeft {value : UInt32} {count : Nat} (small : count < 32)
    (room : value.toNat * 2 ^ count < 2 ^ 32) :
    (value <<< count.toUInt32).toNat = value.toNat * 2 ^ count := by
  rw [UInt32.toNat_shiftLeft, toNat_toUInt32 small, Nat.shiftLeft_eq,
    Nat.mod_eq_of_lt room]

theorem toNat_shiftRight (value : UInt32) {count : Nat} (small : count < 32) :
    (value >>> count.toUInt32).toNat = value.toNat / 2 ^ count := by
  rw [UInt32.toNat_shiftRight, toNat_toUInt32 small, Nat.shiftRight_eq_div_pow]

theorem toNat_mask (value : UInt32) {count : Nat} (small : count < 32) :
    (value &&& ((1 <<< count.toUInt32) - 1)).toNat =
      value.toNat % 2 ^ count := by
  have bound : 2 ^ count < 2 ^ 32 := Nat.pow_lt_pow_right (by decide) small
  have positive := Nat.two_pow_pos count
  have shifted : ((1 : UInt32) <<< count.toUInt32).toNat = 2 ^ count := by
    have room : (1 : UInt32).toNat * 2 ^ count < 2 ^ 32 := by
      rw [UInt32.toNat_one, Nat.one_mul]
      exact bound
    rw [toNat_shiftLeft small room, UInt32.toNat_one, Nat.one_mul]
  have mask : ((1 <<< count.toUInt32) - 1 : UInt32).toNat = 2 ^ count - 1 := by
    rw [UInt32.toNat_sub_of_le, shifted]
    · rfl
    · rw [UInt32.le_iff_toNat_le, shifted]
      exact positive
  rw [UInt32.toNat_and, mask, Nat.and_two_pow_sub_one_eq_mod]

/-! ## One value in, one value out -/

variable {register : Register} {source target : Width} {value : UInt8}

theorem toNat_push (sound : register.Sound)
    (room : register.count + source.bits < 32)
    (fits : source.fits value = true) :
    (register.push source value).value.toNat =
      register.value.toNat * 2 ^ source.bits + value.toNat := by
  have valueLt := Width.fits_iff.mp fits
  have scaled : register.value.toNat * 2 ^ source.bits < 2 ^ 32 := by
    calc
      register.value.toNat * 2 ^ source.bits
        < 2 ^ register.count * 2 ^ source.bits :=
          Nat.mul_lt_mul_of_pos_right sound (Nat.two_pow_pos _)
      _ = 2 ^ (register.count + source.bits) := by rw [Nat.pow_add]
      _ ≤ 2 ^ 32 := Nat.pow_le_pow_right (by decide) (by omega)
  rw [push, UInt32.toNat_or, toNat_shiftLeft (by omega) scaled,
    UInt8.toNat_toUInt32, ← Nat.shiftLeft_eq,
    Nat.shiftLeft_add_eq_or_of_lt valueLt]

theorem sound_push (sound : register.Sound)
    (room : register.count + source.bits < 32)
    (fits : source.fits value = true) : (register.push source value).Sound := by
  have valueLt := Width.fits_iff.mp fits
  rw [Sound]
  rw [toNat_push sound room fits]
  calc
    register.value.toNat * 2 ^ source.bits + value.toNat
      < (register.value.toNat + 1) * 2 ^ source.bits := by
        rw [Nat.succ_mul]
        exact Nat.add_lt_add_left valueLt _
    _ ≤ 2 ^ register.count * 2 ^ source.bits := Nat.mul_le_mul_right _ sound
    _ = 2 ^ (register.count + source.bits) := by rw [Nat.pow_add]

/-- A value that is pushed waits behind everything else. -/
theorem waiting_push (sound : register.Sound)
    (room : register.count + source.bits < 32)
    (fits : source.fits value = true) :
    (register.push source value).waiting =
      register.waiting ++ lowBits source.bits value.toNat := by
  have valueLt := Width.fits_iff.mp fits
  have positive := Nat.two_pow_pos source.bits
  have high : (register.value.toNat * 2 ^ source.bits + value.toNat) /
      2 ^ source.bits = register.value.toNat := by
    rw [Nat.mul_comm, Nat.mul_add_div positive, Nat.div_eq_of_lt valueLt,
      Nat.add_zero]
  have low : (register.value.toNat * 2 ^ source.bits + value.toNat) %
      2 ^ source.bits = value.toNat := by
    rw [Nat.mul_comm, Nat.mul_add_mod, Nat.mod_eq_of_lt valueLt]
  change lowBits (register.count + source.bits)
    (register.push source value).value.toNat = _
  rw [toNat_push sound room fits, lowBits_add, high, ← lowBits_mod source.bits,
    low]
  rfl

theorem toNat_top (sound : register.Sound) (small : register.count < 32)
    (enough : target.bits ≤ register.count) :
    (register.top target).toNat =
        register.value.toNat / 2 ^ (register.count - target.bits) ∧
      register.value.toNat / 2 ^ (register.count - target.bits) <
        2 ^ target.bits := by
  have bound : register.value.toNat / 2 ^ (register.count - target.bits) <
      2 ^ target.bits := by
    apply Nat.div_lt_of_lt_mul
    rw [← Nat.pow_add, Nat.sub_add_cancel enough]
    exact sound
  refine ⟨?_, bound⟩
  rw [top, UInt32.toNat_toUInt8, toNat_shiftRight _ (by omega)]
  apply Nat.mod_eq_of_lt
  exact Nat.lt_of_lt_of_le bound (Nat.pow_le_pow_right (by decide) target.le_eight)

theorem sound_drop (small : register.count < 32)
    (enough : target.bits ≤ register.count) : (register.drop target).Sound := by
  have positive := target.pos
  change (register.value &&& _).toNat < _
  rw [toNat_mask _ (by omega)]
  exact Nat.mod_lt _ (Nat.two_pow_pos _)

/-- The value at the top is the front of the queue. -/
theorem waiting_eq_top_append_drop (sound : register.Sound)
    (small : register.count < 32) (enough : target.bits ≤ register.count) :
    register.waiting =
      lowBits target.bits (register.top target).toNat ++
        (register.drop target).waiting := by
  have positive := target.pos
  have parted := lowBits_add target.bits (register.count - target.bits)
    register.value.toNat
  rw [Nat.add_sub_cancel' enough] at parted
  have kept : (register.drop target).waiting =
      lowBits (register.count - target.bits) register.value.toNat := by
    change lowBits (register.count - target.bits) (register.value &&& _).toNat = _
    rw [toNat_mask _ (by omega), lowBits_mod]
  rw [(toNat_top sound small enough).1, kept]
  exact parted

/-! ## Many values in, many values out -/

/-- Bits that were to come out have been cut into values as far as they go; the
others still wait. -/
structure Cuts (target : Width) (bits : List Bool)
    (result : List UInt8 × Register) : Prop where
  bits_eq : bits = target.stream result.1 ++ result.2.waiting
  fits : ∀ value ∈ result.1, target.fits value = true
  sound : result.2.Sound

theorem count_take (count : Nat) (register : Register) :
    (register.take target count).2.count =
      register.count - count * target.bits := by
  induction count generalizing register with
  | zero => rw [Nat.zero_mul]; rfl
  | succ count ih =>
      change ((register.drop target).take target count).2.count = _
      rw [ih, Nat.succ_mul, Nat.add_comm, ← Nat.sub_sub]
      rfl

theorem cuts_take {count : Nat} (sound : register.Sound)
    (small : register.count < 32)
    (enough : count * target.bits ≤ register.count) :
    Cuts target register.waiting (register.take target count) := by
  induction count generalizing register with
  | zero =>
      refine ⟨rfl, ?_, sound⟩
      intro value member
      cases member
  | succ count ih =>
      rw [Nat.succ_mul] at enough
      have filled : target.bits ≤ register.count := by omega
      have smaller : (register.drop target).count < 32 := by
        change register.count - target.bits < 32
        omega
      have others := ih (sound_drop small filled) smaller (by
        change count * target.bits ≤ register.count - target.bits
        omega)
      refine ⟨?_, ?_, others.sound⟩
      · rw [waiting_eq_top_append_drop sound small filled, others.bits_eq,
          ← List.append_assoc]
        rfl
      · intro value member
        rcases List.mem_cons.mp member with rfl | inRest
        · rw [Width.fits_iff, (toNat_top sound small filled).1]
          exact (toNat_top sound small filled).2
        · exact others.fits value inRest

variable (target) in
theorem cuts_feed (sound : register.Sound) (short : register.count < 8)
    (fits : source.fits value = true) :
    Cuts target (register.waiting ++ lowBits source.bits value.toNat)
      (register.feed source target value) := by
  have bound := source.le_eight
  have room : register.count + source.bits < 32 := by omega
  rw [← waiting_push sound room fits]
  exact cuts_take (sound_push sound room fits) room (Nat.div_mul_le_self _ _)

theorem count_feed (register : Register) (source target : Width)
    (value : UInt8) :
    (register.feed source target value).2.count < target.bits := by
  change ((register.push source value).take target _).2.count < _
  rw [count_take, ← Nat.mod_eq_sub_div_mul]
  exact Nat.mod_lt _ target.pos

variable (target) in
/-- Values that pass through the register come out as the same bits. -/
theorem cuts_feedAll {values : List UInt8} (sound : register.Sound)
    (short : register.count < target.bits)
    (fits : ∀ value ∈ values, source.fits value = true) :
    Cuts target (register.waiting ++ source.stream values)
        (feedAll source target register values) ∧
      (feedAll source target register values).2.count < target.bits := by
  have bound := target.le_eight
  induction values generalizing register with
  | nil =>
      refine ⟨⟨?_, ?_, sound⟩, short⟩
      · rw [Width.stream_nil, List.append_nil]
        rfl
      · intro value member
        cases member
  | cons value rest ih =>
      have one := cuts_feed target sound (by omega)
        (fits value List.mem_cons_self)
      have others := ih one.sound (count_feed register source target value)
        fun member inRest => fits member (List.mem_cons_of_mem _ inRest)
      refine ⟨⟨?_, ?_, others.1.sound⟩, others.2⟩
      · rw [Width.stream_cons, ← List.append_assoc, one.bits_eq,
          List.append_assoc, others.1.bits_eq, ← List.append_assoc,
          ← Width.stream_append]
        rfl
      · intro member inWritten
        rcases List.mem_append.mp inWritten with inFirst | inOthers
        · exact one.fits member inFirst
        · exact others.1.fits member inOthers

end Register

end NostrEntities.Bech32
