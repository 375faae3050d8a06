import Mathlib.Order.Nat
import NostrEntities.Proofs.Bech32.Regroup

/-!
# Regrouping as a function of the bit stream

What regrouping answers is determined by the stream of its input. With padding it is
the groups of the stream after the fewest zeros that make it a whole number of groups;
without padding it is the groups that the stream has, as long as what is left over
counts for nothing. An input with a value that does not fit is refused for the first
such value in both modes.
-/

namespace NostrEntities.Bech32

namespace Width

/-! ## Groups of bits -/

/-- The first groups of a stream, `count` of them, each as the value that its bits
write with the highest bit first. -/
def cut (width : Width) : (count : Nat) → List Bool → List UInt8
  | 0, _ => []
  | count + 1, bits =>
      UInt8.ofNat (numberOf (bits.take width.bits)) ::
        width.cut count (bits.drop width.bits)

/-- All groups that a stream has in full. -/
def groups (width : Width) (bits : List Bool) : List UInt8 :=
  width.cut (bits.length / width.bits) bits

/-- The bits behind the last full group of a stream. -/
def leftover (width : Width) (bits : List Bool) : List Bool :=
  bits.drop (width.bits * (bits.length / width.bits))

variable {width : Width} {bits : List Bool}

theorem toNat_group (enough : width.bits ≤ bits.length) :
    (UInt8.ofNat (numberOf (bits.take width.bits))).toNat =
        numberOf (bits.take width.bits) ∧
      numberOf (bits.take width.bits) < 2 ^ width.bits := by
  have length : (bits.take width.bits).length = width.bits := by
    rw [List.length_take, Nat.min_eq_left enough]
  have bound := numberOf_lt (bits.take width.bits)
  rw [length] at bound
  refine ⟨?_, bound⟩
  rw [UInt8.toNat_ofNat']
  exact Nat.mod_eq_of_lt
    (Nat.lt_of_lt_of_le bound (Nat.pow_le_pow_right (by decide) width.le_eight))

/-- Groups that are cut off fit the width, and their stream is where they were cut
off. -/
theorem stream_cut {count : Nat} (enough : width.bits * count ≤ bits.length) :
    (∀ value ∈ width.cut count bits, width.fits value = true) ∧
      width.stream (width.cut count bits) = bits.take (width.bits * count) := by
  induction count generalizing bits with
  | zero => simp [cut]
  | succ count ih =>
      rw [Nat.mul_succ] at enough
      have filled : width.bits ≤ bits.length := by omega
      rcases toNat_group filled with ⟨same, bound⟩
      rcases @ih (bits.drop width.bits) (by rw [List.length_drop]; omega) with
        ⟨othersFit, others⟩
      refine ⟨?_, ?_⟩
      · intro value member
        rcases List.mem_cons.mp member with rfl | inRest
        · rw [fits_iff, same]
          exact bound
        · exact othersFit value inRest
      · have front := lowBits_numberOf (bits.take width.bits)
        rw [List.length_take, Nat.min_eq_left filled] at front
        rw [cut, stream_cons, same, front, others, Nat.mul_succ, Nat.add_comm,
          List.take_add]

theorem fits_of_mem_groups : ∀ value ∈ width.groups bits, width.fits value = true :=
  (stream_cut (Nat.mul_div_le bits.length width.bits)).1

/-- The groups of a stream and what is left over make up the stream. -/
theorem stream_groups_append_leftover (width : Width) (bits : List Bool) :
    width.stream (width.groups bits) ++ width.leftover bits = bits := by
  rw [groups, (stream_cut (Nat.mul_div_le bits.length width.bits)).2, leftover,
    List.take_append_drop]

theorem length_leftover_lt (width : Width) (bits : List Bool) :
    (width.leftover bits).length < width.bits := by
  rw [leftover, List.length_drop, ← Nat.mod_eq_sub_mul_div]
  exact Nat.mod_lt _ width.pos

/-- The fewest bits that fill a stream up to whole groups are fewer than a group. -/
theorem exists_isLeast_fill (width : Width) (length : Nat) :
    ∃ zeros < width.bits, IsLeast {count | width.bits ∣ length + count} zeros := by
  have fillable : ∃ count, width.bits ∣ length + count := by
    refine ⟨(width.bits - 1) * length, length, ?_⟩
    rw [Nat.sub_mul, Nat.one_mul]
    exact Nat.add_sub_cancel' (Nat.le_mul_of_pos_left length width.pos)
  have least := Nat.isLeast_find fillable
  refine ⟨Nat.find fillable, ?_, least⟩
  -- A whole group of the bits that fill could be left out.
  by_contra many
  have enough : width.bits ≤ Nat.find fillable := Nat.not_lt.mp many
  have fewer : width.bits ∣ length + (Nat.find fillable - width.bits) := by
    rw [← Nat.add_sub_assoc enough]
    exact Nat.dvd_sub least.1 (Nat.dvd_refl _)
  have minimal := least.2 fewer
  have positive := width.pos
  omega

end Width

/-! ## What regrouping answers -/

variable {source target : Width} {values : List UInt8}

theorem find?_misfit_eq :
    values.find? (fun value => !source.fits value) =
      values.find? fun value => 2 ^ source.bits ≤ value.toNat := by
  congr 1
  funext value
  rw [Bool.eq_iff_iff, Bool.not_eq_true', Bool.eq_false_iff, ne_eq, Width.fits_iff,
    Nat.not_lt, decide_eq_true_iff]

variable (target) in
/-- What passes through the register is the groups of the stream; what is left over
waits in it at the end. -/
theorem feedAll_eq_groups (fits : ∀ value ∈ values, source.fits value = true) :
    (Register.empty.feedAll source target values).1 =
        target.groups (source.stream values) ∧
      (Register.empty.feedAll source target values).2.waiting =
        target.leftover (source.stream values) := by
  rcases cuts_regroup target fits with ⟨cuts, short⟩
  have same := cuts.bits_eq.symm.trans
    (target.stream_groups_append_leftover (source.stream values)).symm
  exact Width.stream_append_unique (by simpa [Register.waiting] using short)
    (target.length_leftover_lt _) cuts.fits Width.fits_of_mem_groups same

/-- With padding, the groups are those of the stream and the zeros that fill the last
group. -/
theorem regroup_padded_eq_groups {zeros : Nat}
    (fits : ∀ value ∈ values, source.fits value = true)
    (few : zeros < target.bits)
    (filled : target.bits ∣ (source.stream values).length + zeros) :
    regroup source target true values =
      .ok (target.groups (source.stream values ++ List.replicate zeros false)) := by
  have nothing : target.leftover
      (source.stream values ++ List.replicate zeros false) = [] := by
    rw [Width.leftover, List.length_append, List.length_replicate,
      Nat.mul_div_cancel' filled, List.drop_eq_nil_iff]
    simp
  have whole := target.stream_groups_append_leftover
    (source.stream values ++ List.replicate zeros false)
  rw [nothing, List.append_nil] at whole
  exact regroup_padded_eq_ok_iff.mpr
    ⟨fits, Width.fits_of_mem_groups, zeros, few, whole⟩

/-- Without padding, the groups are those of the stream if what is left over is a few
zeros. -/
theorem regroup_exact_eq_groups
    (fits : ∀ value ∈ values, source.fits value = true) :
    regroup source target false values =
      if (target.leftover (source.stream values)).length < source.bits ∧
          ∀ bit ∈ target.leftover (source.stream values), bit = false then
        .ok (target.groups (source.stream values))
      else .error .nonCanonicalPadding := by
  rcases cuts_regroup target fits with ⟨cuts, -⟩
  rcases feedAll_eq_groups target fits with ⟨written, waiting⟩
  have count : (Register.empty.feedAll source target values).2.count =
      (target.leftover (source.stream values)).length := by
    rw [← waiting, Register.waiting, length_lowBits]
  have negligible := Register.isNegligible_iff source cuts.sound
  rw [waiting, count, List.eq_replicate_iff, and_iff_right rfl] at negligible
  simp only [regroup, find?_misfit_eq_none_iff.mpr fits, Bool.false_eq_true, if_false,
    negligible, written]

/-- Regrouping refuses the first value that does not fit. Otherwise, with padding, it
answers the groups of the bit stream after as few zeros as make it a whole number of
groups; without padding, it answers the full groups of the stream as long as fewer bits
are left over than an input value has and all of them are zeros. -/
theorem regroupBits_eq_groups (source target : Width) (padded : Bool)
    (values : List UInt8) :
    ∃ zeros,
      IsLeast {count | target.bits ∣ (source.stream values).length + count} zeros ∧
      regroupBits source.bits target.bits padded values =
        match values.find? fun value => 2 ^ source.bits ≤ value.toNat with
        | some value => .error (.invalidWord value)
        | none =>
            if padded then
              .ok (target.groups
                (source.stream values ++ List.replicate zeros false))
            else if (target.leftover (source.stream values)).length < source.bits ∧
                ∀ bit ∈ target.leftover (source.stream values), bit = false then
              .ok (target.groups (source.stream values))
            else .error .nonCanonicalPadding := by
  rcases target.exists_isLeast_fill (source.stream values).length with
    ⟨zeros, few, least⟩
  refine ⟨zeros, least, ?_⟩
  rw [regroupBits_eq_regroup, ← find?_misfit_eq]
  cases found : values.find? fun value => !source.fits value with
  | some value => rw [regroup, found]
  | none =>
      have fits := find?_misfit_eq_none_iff.mp found
      cases padded with
      | true => exact regroup_padded_eq_groups fits few least.1
      | false => exact regroup_exact_eq_groups fits

end NostrEntities.Bech32
