import Mathlib.Data.Nat.ModEq
import NostrEntities.Proofs.Bech32.BitStream

/-!
# What regrouping computes

With padding, regrouping writes the only values of the target width whose stream is
the stream of the input and fewer zeros than one value has bits. Without padding it
succeeds when the input is such values and few zeros. The two statements mirror each
other, so regrouping without padding is undone by regrouping with padding, and the
other way round where values do not get wider.
-/

namespace NostrEntities.Bech32

variable {source target : Width} {values written : List UInt8}

/-! ## How the stream determines the values -/

/-- A stream that is cut into values with fewer bits left over than one value has
can be cut in one way only. -/
theorem Width.stream_append_unique {first second : List UInt8}
    {firstRest secondRest : List Bool}
    (firstShort : firstRest.length < target.bits)
    (secondShort : secondRest.length < target.bits)
    (firstFits : ∀ value ∈ first, target.fits value = true)
    (secondFits : ∀ value ∈ second, target.fits value = true)
    (same : target.stream first ++ firstRest = target.stream second ++ secondRest) :
    first = second ∧ firstRest = secondRest := by
  have lengths := congrArg List.length same
  rw [List.length_append, List.length_append, length_stream, length_stream]
    at lengths
  have quotients := congrArg (· / target.bits) lengths
  simp only [Nat.mul_add_div target.pos, Nat.div_eq_of_lt firstShort,
    Nat.div_eq_of_lt secondShort, Nat.add_zero] at quotients
  rcases List.append_inj same (by
    rw [length_stream, length_stream, quotients]) with ⟨streams, rests⟩
  exact ⟨stream_injective firstFits secondFits streams, rests⟩

/-- A stream can be filled up to whole values with fewer zeros than one value has
bits in one way only. -/
theorem Width.stream_eq_append_zeros_unique {first second : List UInt8}
    {bits : List Bool} {firstZeros secondZeros : Nat}
    (firstShort : firstZeros < target.bits)
    (secondShort : secondZeros < target.bits)
    (firstFits : ∀ value ∈ first, target.fits value = true)
    (secondFits : ∀ value ∈ second, target.fits value = true)
    (firstEq : target.stream first = bits ++ List.replicate firstZeros false)
    (secondEq : target.stream second = bits ++ List.replicate secondZeros false) :
    first = second := by
  have firstLength := congrArg List.length firstEq
  have secondLength := congrArg List.length secondEq
  rw [length_stream, List.length_append, List.length_replicate] at *
  have zeros : firstZeros = secondZeros := by
    have remainders : (bits.length + firstZeros) % target.bits =
        (bits.length + secondZeros) % target.bits := by
      rw [← firstLength, ← secondLength, Nat.mul_mod_right, Nat.mul_mod_right]
    have smallRemainders := Nat.ModEq.add_left_cancel' bits.length remainders
    rwa [Nat.ModEq, Nat.mod_eq_of_lt firstShort, Nat.mod_eq_of_lt secondShort]
      at smallRemainders
  rw [zeros, ← secondEq] at firstEq
  exact stream_injective firstFits secondFits firstEq

/-! ## The end of the stream -/

namespace Register

variable {register : Register}

/-- What waits at the end, filled up with zeros, is at most one more value. -/
theorem stream_padding (sound : register.Sound)
    (short : register.count < target.bits) :
    (∀ value ∈ register.padding target, target.fits value = true) ∧
      ∃ zeros < target.bits,
        target.stream (register.padding target) =
          register.waiting ++ List.replicate zeros false := by
  have bound := target.le_eight
  rw [padding]
  by_cases empty : register.count = 0
  · rw [if_pos empty]
    refine ⟨by simp, 0, target.pos, ?_⟩
    rw [waiting, empty]
    rfl
  · rw [if_neg empty]
    have scaled : register.value.toNat * 2 ^ (target.bits - register.count) <
        2 ^ target.bits := by
      calc
        register.value.toNat * 2 ^ (target.bits - register.count)
          < 2 ^ register.count * 2 ^ (target.bits - register.count) :=
            Nat.mul_lt_mul_of_pos_right sound (Nat.two_pow_pos _)
        _ = 2 ^ target.bits := by
            rw [← Nat.pow_add, Nat.add_sub_cancel' (Nat.le_of_lt short)]
    have byteBound : 2 ^ target.bits ≤ 2 ^ 8 :=
      Nat.pow_le_pow_right (by decide) bound
    have last : (register.value <<<
        (target.bits - register.count).toUInt32).toUInt8.toNat =
          register.value.toNat * 2 ^ (target.bits - register.count) := by
      rw [UInt32.toNat_toUInt8, toNat_shiftLeft (by omega) (by omega)]
      exact Nat.mod_eq_of_lt (by omega)
    refine ⟨?_, target.bits - register.count, by omega, ?_⟩
    · intro value member
      rw [List.mem_singleton.mp member, Width.fits_iff, last]
      exact scaled
    · rw [Width.stream_cons, Width.stream_nil, List.append_nil, last, waiting,
        lowBits_append_zeros, Nat.add_sub_cancel' (Nat.le_of_lt short)]

variable (source) in
theorem isNegligible_iff (sound : register.Sound) :
    register.isNegligible source = true ↔
      register.count < source.bits ∧
        register.waiting = List.replicate register.count false := by
  rw [isNegligible, waiting, lowBits_eq_replicate_iff sound, Bool.and_eq_true,
    decide_eq_true_eq, beq_iff_eq, ← UInt32.toNat_inj]
  rfl

end Register

/-! ## Both modes -/

theorem find?_misfit_eq_none_iff :
    values.find? (fun value => !source.fits value) = none ↔
      ∀ value ∈ values, source.fits value = true := by
  simp

variable (target) in
/-- The values and the rest that come out of the register at the end. -/
theorem cuts_regroup (fits : ∀ value ∈ values, source.fits value = true) :
    Register.Cuts target (source.stream values)
        (Register.empty.feedAll source target values) ∧
      (Register.empty.feedAll source target values).2.count < target.bits := by
  have cuts := Register.cuts_feedAll target Register.sound_empty
    target.pos fits
  rwa [Register.waiting_empty, List.nil_append] at cuts

variable (target) in
/-- With padding, regrouping succeeds on all values that fit. -/
theorem regroup_padded_of_fits
    (fits : ∀ value ∈ values, source.fits value = true) :
    ∃ written, regroup source target true values = .ok written ∧
      (∀ value ∈ written, target.fits value = true) ∧
      ∃ zeros < target.bits,
        target.stream written =
          source.stream values ++ List.replicate zeros false := by
  rcases cuts_regroup target fits with ⟨cuts, short⟩
  rcases Register.stream_padding cuts.sound short with
    ⟨lastFits, zeros, few, filled⟩
  refine ⟨(Register.empty.feedAll source target values).1 ++
    (Register.empty.feedAll source target values).2.padding target,
    ?_, ?_, zeros, few, ?_⟩
  · rw [regroup, find?_misfit_eq_none_iff.mpr fits]
    rfl
  · intro value member
    rcases List.mem_append.mp member with inFirst | inLast
    · exact cuts.fits value inFirst
    · exact lastFits value inLast
  · rw [Width.stream_append, filled, ← List.append_assoc, ← cuts.bits_eq]

theorem fits_of_regroup {padded : Bool}
    (regrouped : regroup source target padded values = .ok written) :
    ∀ value ∈ values, source.fits value = true := by
  rw [← find?_misfit_eq_none_iff]
  rw [regroup] at regrouped
  split at regrouped
  · cases regrouped
  · assumption

/-- With padding, the result is the stream and the fewest zeros that fill the last
value. -/
theorem regroup_padded_eq_ok_iff :
    regroup source target true values = .ok written ↔
      (∀ value ∈ values, source.fits value = true) ∧
      (∀ value ∈ written, target.fits value = true) ∧
      ∃ zeros < target.bits,
        target.stream written =
          source.stream values ++ List.replicate zeros false := by
  constructor
  · intro regrouped
    have fits := fits_of_regroup regrouped
    rcases regroup_padded_of_fits target fits with
      ⟨result, computed, resultFits, filled⟩
    rw [regrouped, Except.ok.injEq] at computed
    subst computed
    exact ⟨fits, resultFits, filled⟩
  · intro filled
    rcases filled with ⟨fits, writtenFits, zeros, few, streamEq⟩
    rcases regroup_padded_of_fits target fits with
      ⟨result, computed, resultFits, resultZeros, resultFew, resultEq⟩
    rw [computed, Except.ok.injEq]
    exact Width.stream_eq_append_zeros_unique resultFew few resultFits writtenFits
      resultEq streamEq

/-- Without padding, the stream is the result and a short rest of zeros. -/
theorem regroup_exact_eq_ok_iff :
    regroup source target false values = .ok written ↔
      (∀ value ∈ values, source.fits value = true) ∧
      (∀ value ∈ written, target.fits value = true) ∧
      ∃ zeros, zeros < source.bits ∧ zeros < target.bits ∧
        source.stream values =
          target.stream written ++ List.replicate zeros false := by
  constructor
  · intro regrouped
    have fits := fits_of_regroup regrouped
    rcases cuts_regroup target fits with ⟨cuts, short⟩
    simp only [regroup, find?_misfit_eq_none_iff.mpr fits, Bool.false_eq_true,
      if_false] at regrouped
    split at regrouped
    · rename_i negligible
      cases regrouped
      rcases (Register.isNegligible_iff source cuts.sound).mp negligible with ⟨few, zeros⟩
      refine ⟨fits, cuts.fits, _, few, short, ?_⟩
      rw [← zeros]
      exact cuts.bits_eq
    · cases regrouped
  · intro cut
    rcases cut with ⟨fits, writtenFits, zeros, few, short, streamEq⟩
    rcases cuts_regroup target fits with ⟨cuts, restShort⟩
    have same := cuts.bits_eq.symm.trans streamEq
    rcases Width.stream_append_unique (by simpa [Register.waiting] using restShort)
      (by simpa using short) cuts.fits writtenFits same with ⟨valuesEq, restEq⟩
    have count := congrArg List.length restEq
    rw [Register.waiting, length_lowBits, List.length_replicate] at count
    have negligible := (Register.isNegligible_iff source cuts.sound).mpr
      ⟨by omega, by rw [restEq, count]⟩
    simp only [regroup, find?_misfit_eq_none_iff.mpr fits, Bool.false_eq_true,
      if_false, negligible, if_true, valuesEq]

/-! ## Inverses -/

/-- Regrouping without padding is undone by regrouping with padding. -/
theorem regroup_padded_of_regroup_exact
    (regrouped : regroup source target false values = .ok written) :
    regroup target source true written = .ok values := by
  rcases regroup_exact_eq_ok_iff.mp regrouped with
    ⟨fits, writtenFits, zeros, few, -, streamEq⟩
  exact regroup_padded_eq_ok_iff.mpr ⟨writtenFits, fits, zeros, few, streamEq⟩

/-- Regrouping with padding is undone by regrouping without it when values do not
get wider: then the zeros are too few to be mistaken for another value. -/
theorem regroup_exact_of_regroup_padded (narrower : target.bits ≤ source.bits)
    (regrouped : regroup source target true values = .ok written) :
    regroup target source false written = .ok values := by
  rcases regroup_padded_eq_ok_iff.mp regrouped with
    ⟨fits, writtenFits, zeros, few, streamEq⟩
  exact regroup_exact_eq_ok_iff.mpr ⟨writtenFits, fits, zeros, few,
    Nat.lt_of_lt_of_le few narrower, streamEq⟩

/-! ## Bytes and words -/

/-- Words carry a byte string exactly when they are the words written for it. -/
theorem bytesOfWords_eq_ok_iff {words bytes : List UInt8} :
    bytesOfWords words = .ok bytes ↔ wordsOfBytes bytes = .ok words := by
  constructor
  · intro read
    exact regroup_padded_of_regroup_exact read
  · intro written
    exact regroup_exact_of_regroup_padded (by decide) written

theorem fits_byte (value : UInt8) : Width.byte.fits value = true :=
  Width.fits_iff.mpr value.toNat_lt

/-- Every byte string can be written in words. -/
theorem exists_wordsOfBytes (bytes : List UInt8) :
    ∃ words, wordsOfBytes bytes = .ok words := by
  rcases regroup_padded_of_fits .word
    (fun value (_ : value ∈ bytes) => fits_byte value) with ⟨words, written, -⟩
  exact ⟨words, written⟩

/-- Words that are written have five bits. -/
theorem lt_of_wordsOfBytes {bytes words : List UInt8}
    (written : wordsOfBytes bytes = .ok words) : ∀ word ∈ words, word < 32 := by
  rcases regroup_padded_eq_ok_iff.mp written with ⟨-, fits, -⟩
  intro word member
  exact Width.fits_iff.mp (fits word member)

theorem length_of_wordsOfBytes {bytes words : List UInt8}
    (written : wordsOfBytes bytes = .ok words) :
    words.length = (8 * bytes.length + 4) / 5 := by
  rcases regroup_padded_eq_ok_iff.mp written with ⟨-, -, zeros, few, streamEq⟩
  have lengths := congrArg List.length streamEq
  rw [Width.length_stream, List.length_append, Width.length_stream,
    List.length_replicate] at lengths
  change 5 * words.length = 8 * bytes.length + zeros at lengths
  change zeros < 5 at few
  omega

/-! ## Widths given as numbers -/

theorem regroupBits_eq_regroup (source target : Width) (padded : Bool)
    (values : List UInt8) :
    regroupBits source.bits target.bits padded values =
      regroup source target padded values := by
  rw [regroupBits, Width.ofNat?_eq_some_iff.mpr rfl, Width.ofNat?_eq_some_iff.mpr rfl]

/-- What comes out without padding comes from one list of values only. -/
theorem regroup_exact_injective {other : List UInt8}
    (regrouped : regroup source target false values = .ok written)
    (otherDone : regroup source target false other = .ok written) :
    other = values := by
  have again := regroup_padded_of_regroup_exact regrouped
  rw [regroup_padded_of_regroup_exact otherDone, Except.ok.injEq] at again
  exact again

/-- What is regrouped without padding is given back by regrouping with padding, and
what is regrouped with padding by regrouping without it where values do not get wider.
So bytes and words of five bits determine each other, and no two lists of values come
out as the same without padding. -/
theorem regroupBits_inverse (source target : Width) (values written : List UInt8) :
    (regroupBits source.bits target.bits false values = .ok written →
        regroupBits target.bits source.bits true written = .ok values) ∧
      (target.bits ≤ source.bits →
        regroupBits source.bits target.bits true values = .ok written →
          regroupBits target.bits source.bits false written = .ok values) ∧
      (regroupBits 8 5 true values = .ok written ↔
        regroupBits 5 8 false written = .ok values) ∧
      ∀ other, regroupBits source.bits target.bits false values = .ok written →
        regroupBits source.bits target.bits false other = .ok written →
          other = values := by
  have bytesAndWords : regroupBits 8 5 true values = .ok written ↔
      regroupBits 5 8 false written = .ok values := by
    change regroupBits Width.byte.bits Width.word.bits true values = _ ↔
      regroupBits Width.word.bits Width.byte.bits false written = _
    rw [regroupBits_eq_regroup, regroupBits_eq_regroup]
    exact bytesOfWords_eq_ok_iff.symm
  simp only [regroupBits_eq_regroup]
  exact ⟨regroup_padded_of_regroup_exact, regroup_exact_of_regroup_padded,
    bytesAndWords, fun _ => regroup_exact_injective⟩

/-- Between three and seven bits, with zeros left out in one direction and filled in
in the other. -/
theorem regroupBits_inverse_three_seven :
    regroupBits 3 7 false [7, 7, 0] = .ok [126] ∧
      regroupBits 7 3 true [126] = .ok [7, 7, 0] ∧
      3 ≤ 7 ∧ regroupBits 7 3 true [126, 1] = .ok [7, 7, 0, 0, 2] ∧
      regroupBits 3 7 false [7, 7, 0, 0, 2] = .ok [126, 1] := by
  have narrowed : regroupBits 3 7 false [7, 7, 0] = .ok [126] := by cbv
  have narrower : 3 ≤ 7 := by decide
  have padded : regroupBits 7 3 true [126, 1] = .ok [7, 7, 0, 0, 2] := by cbv
  exact ⟨narrowed, (regroupBits_inverse { bits := 3 } { bits := 7 } _ _).1 narrowed,
    narrower, padded,
    (regroupBits_inverse { bits := 7 } { bits := 3 } _ _).2.1 narrower padded⟩

/-- Where values get wider, the zeros that are filled in may be taken for values. -/
example : regroupBits 5 8 true [0, 0] = .ok [0, 0] ∧
    regroupBits 8 5 false [0, 0] = .ok [0, 0, 0] :=
  ⟨by cbv, by cbv⟩

end NostrEntities.Bech32
