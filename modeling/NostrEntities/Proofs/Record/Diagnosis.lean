import NostrEntities.Proofs.Record.Framing

/-!
# Buffers that hold no records

Reading stops at the first byte that starts no record, unless the limit on records
comes before it. What is reported of that byte is determined by the buffer: the tag if
it is unknown, or else how much of the value is there. Together with what is read of
other buffers this says for every buffer what comes of it.
-/

namespace NostrEntities

theorem Tag.ofCode_eq_error_iff {code : UInt8} {cause : Record.Error} :
    Tag.ofCode code = .error cause ↔ 4 ≤ code ∧ cause = .unknownTag code := by
  unfold Tag.ofCode
  split
  case h_5 notSpecial notRelay notAuthor notKind =>
    have beyond : 4 ≤ code := by
      simp only [UInt8.le_iff_toNat_le, ← UInt8.toNat_inj, UInt8.reduceToNat,
        imp_false] at *
      omega
    simp [beyond, eq_comm]
  all_goals simp

theorem Tag.exists_ofCode_iff {code : UInt8} :
    (∃ tag, Tag.ofCode code = .ok tag) ↔ code < 4 := by
  constructor
  · intro known
    rcases known with ⟨tag, read⟩
    rw [Tag.ofCode_eq_ok_iff.mp read]
    cases tag <;> decide
  · intro small
    cases read : Tag.ofCode code with
    | ok tag => exact ⟨tag, rfl⟩
    | error cause =>
        have beyond := (Tag.ofCode_eq_error_iff.mp read).1
        exact absurd small (UInt8.not_lt.mpr beyond)

namespace Record

variable {count limit offset : Nat} {code : UInt8} {buffer rest : List UInt8}
  {record : Record} {records : List Record} {cause : Error}

/-! ## One record -/

/-- Whether a record ends too early, given by what follows its tag: without a length,
or with a length that is more than what remains. -/
def CutShort (rest : List UInt8) (length remaining : Nat) : Prop :=
  rest = [] ∧ length = 0 ∧ remaining = 0 ∨
    ∃ size value, rest = size :: value ∧ value.length < size.toNat ∧
      length = size.toNat ∧ remaining = value.length

theorem readValue_eq_error_iff :
    readValue offset rest = .error cause ↔
      ∃ length remaining, CutShort rest length remaining ∧
        cause = .truncated offset length remaining := by
  cases rest with
  | nil =>
      rw [readValue, Except.error.injEq]
      constructor
      · intro reported
        exact ⟨0, 0, .inl ⟨rfl, rfl, rfl⟩, reported.symm⟩
      · intro cut
        rcases cut with ⟨_, _, ⟨-, rfl, rfl⟩ | ⟨_, _, filled, -⟩, rfl⟩
        · rfl
        · cases filled
  | cons size value =>
      rw [readValue]
      constructor
      · intro reported
        split at reported
        · rename_i short
          cases reported
          exact ⟨_, _, .inr ⟨size, value, rfl, short, rfl, rfl⟩, rfl⟩
        · cases reported
      · intro cut
        rcases cut with ⟨_, _, ⟨empty, -⟩ | ⟨_, _, same, short, rfl, rfl⟩, rfl⟩
        · cases empty
        · cases same
          rw [if_pos short]

/-- A record is not read if its tag is unknown or else if it ends too early. -/
theorem readOne_eq_error_iff :
    readOne offset code rest = .error cause ↔
      4 ≤ code ∧ cause = .unknownTag code ∨
        code < 4 ∧ ∃ length remaining, CutShort rest length remaining ∧
          cause = .truncated offset length remaining := by
  simp only [readOne, Except.bind_eq_error_iff, Tag.ofCode_eq_error_iff,
    readValue_eq_error_iff, Except.pure_ne_error, and_false, exists_false, or_false,
    exists_and_right, Tag.exists_ofCode_iff]

/-! ## Many records -/

/-- A buffer is records, fewer than may be read, and then something else that starts
with the given byte. -/
structure Interrupted (limit : Nat) (buffer : List UInt8) (records : List Record)
    (code : UInt8) (rest : List UInt8) : Prop where
  buffer_eq : buffer = bytesOfAll records ++ code :: rest
  short : ∀ record ∈ records, record.value.length ≤ 255
  count_lt : records.length < limit

namespace Interrupted

theorem nil_iff :
    Interrupted (limit + 1) buffer [] code rest ↔ buffer = code :: rest := by
  constructor
  · intro interrupted
    exact interrupted.buffer_eq
  · intro same
    exact ⟨same, by simp, Nat.succ_pos limit⟩

/-- One more record in front, under a limit that is one higher. -/
theorem cons_iff :
    Interrupted (limit + 1) buffer (record :: records) code rest ↔
      ∃ following, record.value.length ≤ 255 ∧
        buffer = record.bytes ++ following ∧
        Interrupted limit following records code rest := by
  constructor
  · intro interrupted
    refine ⟨bytesOfAll records ++ code :: rest,
      interrupted.short record List.mem_cons_self, ?_, rfl, ?_, ?_⟩
    · rw [interrupted.buffer_eq, bytesOfAll_cons, List.append_assoc]
    · intro other member
      exact interrupted.short other (List.mem_cons_of_mem _ member)
    · exact Nat.lt_of_succ_lt_succ interrupted.count_lt
  · intro parts
    rcases parts with ⟨following, short, rfl, interrupted⟩
    refine ⟨?_, ?_, Nat.succ_lt_succ interrupted.count_lt⟩
    · rw [interrupted.buffer_eq, bytesOfAll_cons, List.append_assoc]
    · intro other member
      rcases List.mem_cons.mp member with rfl | inRest
      · exact short
      · exact interrupted.short other inRest

end Interrupted

/-- Reading fails where the first byte that starts no record stands, with what is wrong
there. -/
theorem readUpTo_eq_error_iff :
    readUpTo count offset buffer = .error cause ↔
      ∃ records code rest, Interrupted count buffer records code rest ∧
        readOne (offset + (bytesOfAll records).length) code rest =
          .error cause := by
  induction count generalizing offset buffer with
  | zero =>
      rw [readUpTo]
      simp only [reduceCtorEq, false_iff]
      intro failed
      rcases failed with ⟨records, code, rest, interrupted, -⟩
      exact Nat.not_lt_zero _ interrupted.count_lt
  | succ count ih =>
      cases buffer with
      | nil =>
          rw [readUpTo]
          simp only [reduceCtorEq, false_iff]
          intro failed
          rcases failed with ⟨records, code, rest, interrupted, -⟩
          have empty := List.append_eq_nil_iff.mp interrupted.buffer_eq.symm
          cases empty.2
      | cons first following =>
          simp only [readUpTo, Except.bind_eq_error_iff, Prod.exists,
            Except.pure_ne_error, and_false, exists_false, or_false, ih]
          constructor
          · intro failed
            rcases failed with failed | ⟨record, rest, read, records, code, others,
              interrupted, failed⟩
            · exact ⟨[], first, following, Interrupted.nil_iff.mpr rfl, failed⟩
            · rcases readOne_eq_ok_iff.mp read with ⟨short, parted⟩
              refine ⟨record :: records, code, others,
                Interrupted.cons_iff.mpr ⟨rest, short, parted, interrupted⟩, ?_⟩
              rw [bytesOfAll_cons, List.length_append, length_bytes, ← Nat.add_assoc]
              exact failed
          · intro failed
            rcases failed with ⟨records, code, others, interrupted, failed⟩
            cases records with
            | nil =>
                left
                cases Interrupted.nil_iff.mp interrupted
                exact failed
            | cons record records =>
                right
                rcases Interrupted.cons_iff.mp interrupted with
                  ⟨rest, short, parted, behind⟩
                refine ⟨record, rest, readOne_eq_ok_iff.mpr ⟨short, parted⟩, records,
                  code, others, behind, ?_⟩
                rw [bytesOfAll_cons, List.length_append, length_bytes,
                  ← Nat.add_assoc] at failed
                exact failed

/-- Reading a buffer fails if the buffer is empty or something in it starts no
record. -/
theorem outcome_readAll_eq_error_iff :
    (readAll buffer).outcome = .error cause ↔
      buffer = [] ∧ cause = .empty ∨
        ∃ records code rest, Interrupted maximumCount buffer records code rest ∧
          readOne (bytesOfAll records).length code rest = .error cause := by
  rw [outcome_readAll, Except.bind_eq_error_iff, readUpTo_eq_error_iff, or_comm]
  simp only [Nat.zero_add]
  apply or_congr_left
  constructor
  · intro stopped
    rcases stopped with ⟨⟨records, tail⟩, upTo, refused⟩
    cases records with
    | cons record rest => cases refused
    | nil =>
        cases refused
        have framed := readUpTo_eq_ok_iff.mp upTo
        refine ⟨?_, rfl⟩
        rw [framed.buffer_eq, bytesOfAll_nil, List.nil_append]
        cases tail with
        | nil => rfl
        | cons byte others =>
            have full := framed.full_of_tail (List.cons_ne_nil byte others)
            exact absurd full (by decide)
  · intro empty
    rcases empty with ⟨rfl, rfl⟩
    exact ⟨([], []), rfl, rfl⟩

/-! ## Every buffer -/

theorem framed_iff_writeAll {tail : List UInt8} :
    Framed limit buffer records tail ↔
      records.length ≤ limit ∧ (tail = [] ∨ records.length = limit) ∧
        ∃ written, writeAll records = .ok written ∧ buffer = written ++ tail := by
  simp only [writeAll_eq_ok_iff]
  constructor
  · intro framed
    refine ⟨framed.count_le, ?_, _, ⟨framed.short, rfl⟩, framed.buffer_eq⟩
    cases tail with
    | nil => exact .inl rfl
    | cons byte others =>
        exact .inr (framed.full_of_tail (List.cons_ne_nil byte others))
  · intro parts
    rcases parts with ⟨few, full, written, ⟨short, rfl⟩, parted⟩
    exact ⟨parted, short, few, fun filled => full.resolve_left filled⟩

theorem interrupted_iff_writeAll :
    Interrupted limit buffer records code rest ↔
      records.length < limit ∧ ∃ written, writeAll records = .ok written ∧
        buffer = written ++ code :: rest := by
  simp only [writeAll_eq_ok_iff]
  constructor
  · intro interrupted
    exact ⟨interrupted.count_lt, _, ⟨interrupted.short, rfl⟩,
      interrupted.buffer_eq⟩
  · intro parts
    rcases parts with ⟨few, written, ⟨short, rfl⟩, parted⟩
    exact ⟨parted, short, few⟩

theorem outcome_readAll_eq_empty_iff :
    (readAll buffer).outcome = .error .empty ↔ buffer = [] := by
  simp [outcome_readAll_eq_error_iff, readOne_eq_error_iff]

theorem outcome_readAll_eq_unknownTag_iff :
    (readAll buffer).outcome = .error (.unknownTag code) ↔
      4 ≤ code ∧
        ∃ records rest, Interrupted maximumCount buffer records code rest := by
  simp only [outcome_readAll_eq_error_iff, readOne_eq_error_iff, reduceCtorEq,
    and_false, exists_false, or_false, false_or, Error.unknownTag.injEq]
  constructor
  · intro stopped
    rcases stopped with ⟨records, _, rest, interrupted, unknown, rfl⟩
    exact ⟨unknown, records, rest, interrupted⟩
  · intro stopped
    rcases stopped with ⟨unknown, records, rest, interrupted⟩
    exact ⟨records, code, rest, interrupted, unknown, rfl⟩

theorem outcome_readAll_eq_truncated_iff {length remaining : Nat} :
    (readAll buffer).outcome = .error (.truncated offset length remaining) ↔
      ∃ records code rest, Interrupted maximumCount buffer records code rest ∧
        code < 4 ∧ offset = (bytesOfAll records).length ∧
        CutShort rest length remaining := by
  simp only [outcome_readAll_eq_error_iff, readOne_eq_error_iff, reduceCtorEq,
    and_false, false_or, Error.truncated.injEq]
  constructor
  · intro stopped
    rcases stopped with ⟨records, code, rest, interrupted, known, _, _, cut, rfl, rfl,
      rfl⟩
    exact ⟨records, code, rest, interrupted, known, rfl, cut⟩
  · intro stopped
    rcases stopped with ⟨records, code, rest, interrupted, known, rfl, cut⟩
    exact ⟨records, code, rest, interrupted, known, _, _, cut, rfl, rfl, rfl⟩

/-- What comes of reading a buffer. Up to sixteen records are read, exactly from the
buffers that are their bytes with nothing behind them, or with anything behind the
sixteenth. All other buffers are empty, or the first byte in them that starts no record
is reported: as an unknown tag, or as a record that ends too early. -/
theorem outcome_readAll_iff (buffer : List UInt8) :
    (∀ records, (readAll buffer).outcome = .ok records ↔
      1 ≤ records.length ∧ records.length ≤ 16 ∧
        ∃ written tail, writeAll records = .ok written ∧ buffer = written ++ tail ∧
          (tail = [] ∨ records.length = 16)) ∧
    ((readAll buffer).outcome = .error .empty ↔ buffer = []) ∧
    (∀ code, (readAll buffer).outcome = .error (.unknownTag code) ↔
      4 ≤ code ∧ ∃ records written rest, records.length < 16 ∧
        writeAll records = .ok written ∧ buffer = written ++ code :: rest) ∧
    (∀ offset length remaining,
      (readAll buffer).outcome = .error (.truncated offset length remaining) ↔
        ∃ records written code rest, records.length < 16 ∧
          writeAll records = .ok written ∧ buffer = written ++ code :: rest ∧
          code < 4 ∧ offset = written.length ∧ CutShort rest length remaining) ∧
    ∀ length, (readAll buffer).outcome ≠ .error (.valueTooLong length) := by
  refine ⟨?_, outcome_readAll_eq_empty_iff, ?_, ?_, ?_⟩
  · intro records
    rw [outcome_readAll_eq_ok_iff, ← List.length_pos_iff]
    simp only [framed_iff_writeAll]
    constructor
    · intro read
      rcases read with ⟨parsed, tail, few, full, written, produced, parted⟩
      exact ⟨parsed, few, written, tail, produced, parted, full⟩
    · rintro ⟨parsed, few, written, tail, produced, parted, full⟩
      exact ⟨parsed, tail, few, full, written, produced, parted⟩
  · intro code
    rw [outcome_readAll_eq_unknownTag_iff]
    simp only [interrupted_iff_writeAll]
    constructor
    · intro stopped
      rcases stopped with ⟨unknown, records, rest, few, written, produced, parted⟩
      exact ⟨unknown, records, written, rest, few, produced, parted⟩
    · intro stopped
      rcases stopped with ⟨unknown, records, written, rest, few, produced, parted⟩
      exact ⟨unknown, records, rest, few, written, produced, parted⟩
  · intro offset length remaining
    rw [outcome_readAll_eq_truncated_iff]
    constructor
    · intro stopped
      rcases stopped with ⟨records, code, rest, interrupted, known, rfl, cut⟩
      exact ⟨records, bytesOfAll records, code, rest, interrupted.count_lt,
        writeAll_eq_ok_iff.mpr ⟨interrupted.short, rfl⟩, interrupted.buffer_eq, known,
        rfl, cut⟩
    · intro stopped
      rcases stopped with ⟨records, written, code, rest, few, produced, parted, known,
        rfl, cut⟩
      have same := (writeAll_eq_ok_iff.mp produced).2
      exact ⟨records, code, rest,
        interrupted_iff_writeAll.mpr ⟨few, written, produced, parted⟩, known,
        congrArg List.length same, cut⟩
  · intro length
    simp [outcome_readAll_eq_error_iff, readOne_eq_error_iff]

end Record

end NostrEntities
