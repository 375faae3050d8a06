import NostrEntities.Proofs.Outcome
import NostrEntities.Record

/-!
# Buffers as records

Reading a buffer succeeds exactly when the buffer is records one after the other,
with unread bytes behind them only where the limit on records is reached. Writing
produces such a buffer, without unread bytes, whenever no value is too long.
-/

namespace NostrEntities.Record

/-- The bytes of records, one record after the other. -/
def bytesOfAll (records : List Record) : List UInt8 :=
  records.flatMap bytes

@[simp] theorem bytesOfAll_nil : bytesOfAll [] = [] := rfl

@[simp] theorem bytesOfAll_cons (record : Record) (rest : List Record) :
    bytesOfAll (record :: rest) = record.bytes ++ bytesOfAll rest := rfl

/-- A buffer is records, none of them too long, and bytes that are left unread
because no more records may be read. -/
structure Framed (limit : Nat) (buffer : List UInt8) (records : List Record)
    (tail : List UInt8) : Prop where
  buffer_eq : buffer = bytesOfAll records ++ tail
  short : ∀ record ∈ records, record.value.length ≤ 255
  count_le : records.length ≤ limit
  full_of_tail : tail ≠ [] → records.length = limit

namespace Framed

variable {limit : Nat} {buffer following tail : List UInt8} {record : Record}
  {records : List Record}

theorem zero_iff :
    Framed 0 buffer records tail ↔ records = [] ∧ tail = buffer := by
  constructor
  · intro framed
    have noRecords := List.length_eq_zero_iff.mp (Nat.le_zero.mp framed.count_le)
    have whole := framed.buffer_eq
    rw [noRecords] at whole
    exact ⟨noRecords, whole.symm⟩
  · intro parts
    rcases parts with ⟨rfl, rfl⟩
    exact ⟨rfl, by simp, Nat.le_refl 0, fun _ => rfl⟩

theorem nil_iff :
    Framed (limit + 1) [] records tail ↔ records = [] ∧ tail = [] := by
  constructor
  · intro framed
    rcases List.append_eq_nil_iff.mp framed.buffer_eq.symm with ⟨noBytes, noTail⟩
    refine ⟨?_, noTail⟩
    cases records with
    | nil => rfl
    | cons record rest => cases noBytes
  · intro parts
    rcases parts with ⟨rfl, rfl⟩
    exact ⟨rfl, by simp, Nat.zero_le _, fun filled => absurd rfl filled⟩

/-- One more record in front, under a limit that is one higher. -/
theorem cons_iff :
    Framed (limit + 1) buffer (record :: records) tail ↔
      ∃ following, record.value.length ≤ 255 ∧
        buffer = record.bytes ++ following ∧
        Framed limit following records tail := by
  constructor
  · intro framed
    refine ⟨bytesOfAll records ++ tail, framed.short record List.mem_cons_self,
      ?_, rfl, ?_, ?_, ?_⟩
    · rw [framed.buffer_eq, bytesOfAll_cons, List.append_assoc]
    · intro other member
      exact framed.short other (List.mem_cons_of_mem _ member)
    · exact Nat.le_of_succ_le_succ framed.count_le
    · intro filled
      exact Nat.succ_inj.mp (framed.full_of_tail filled)
  · intro parts
    rcases parts with ⟨following, short, rfl, framed⟩
    refine ⟨?_, ?_, Nat.succ_le_succ framed.count_le, ?_⟩
    · rw [framed.buffer_eq, bytesOfAll_cons, List.append_assoc]
    · intro other member
      rcases List.mem_cons.mp member with rfl | inRest
      · exact short
      · exact framed.short other inRest
    · intro filled
      rw [List.length_cons, framed.full_of_tail filled]

end Framed

/-! ## Reading -/

/-- Reading up to a number of records finds the only way to split the buffer. -/
theorem readUpTo_eq_ok_iff {count offset : Nat} {buffer tail : List UInt8}
    {records : List Record} :
    readUpTo count offset buffer = .ok (records, tail) ↔
      Framed count buffer records tail := by
  induction count generalizing offset buffer records tail with
  | zero =>
      rw [readUpTo, Framed.zero_iff, Except.ok.injEq, Prod.mk.injEq]
      exact and_congr eq_comm eq_comm
  | succ count ih =>
      cases buffer with
      | nil =>
          rw [readUpTo, Framed.nil_iff, Except.ok.injEq, Prod.mk.injEq]
          exact and_congr eq_comm eq_comm
      | cons code rest =>
          simp only [readUpTo, Except.bind_eq_ok_iff, Prod.exists,
            Except.pure_eq_ok_iff, Prod.mk.injEq, readOne_eq_ok_iff, ih]
          constructor
          · intro read
            rcases read with ⟨record, following, ⟨short, parted⟩, others, rest, framed,
              rfl, rfl⟩
            exact Framed.cons_iff.mpr ⟨following, short, parted, framed⟩
          · intro framed
            cases records with
            | nil =>
                -- Bytes are left over although the limit is not reached.
                have filled : tail ≠ [] := by
                  intro noTail
                  have empty := framed.buffer_eq
                  rw [noTail] at empty
                  cases empty
                cases framed.full_of_tail filled
            | cons record others =>
                rcases Framed.cons_iff.mp framed with
                  ⟨following, short, parted, framedRest⟩
                exact ⟨record, following, ⟨short, parted⟩, others, tail, framedRest,
                  rfl, rfl⟩

theorem outcome_readAll (buffer : List UInt8) :
    (readAll buffer).outcome =
      readUpTo maximumCount 0 buffer >>= fun parts =>
        if parts.1.isEmpty then .error .empty else .ok parts.1 := by
  simp only [readAll, Traced.outcome_bind, Traced.outcome_ofExcept,
    Traced.outcome_notifyIf]
  congr 1
  funext parts
  rcases parts with ⟨found, rest⟩
  cases found <;> rfl

/-- Reading a buffer succeeds exactly when it starts with a record and splits into
records up to the limit. -/
theorem outcome_readAll_eq_ok_iff {buffer : List UInt8} {records : List Record} :
    (readAll buffer).outcome = .ok records ↔
      records ≠ [] ∧ ∃ tail, Framed maximumCount buffer records tail := by
  rw [outcome_readAll, Except.bind_eq_ok_iff]
  constructor
  · intro read
    rcases read with ⟨⟨found, tail⟩, upTo, nonempty⟩
    cases found with
    | nil => cases nonempty
    | cons record rest =>
        cases nonempty
        exact ⟨List.cons_ne_nil record rest, tail, readUpTo_eq_ok_iff.mp upTo⟩
  · rintro ⟨nonempty, tail, framed⟩
    refine ⟨(records, tail), readUpTo_eq_ok_iff.mpr framed, ?_⟩
    cases records with
    | nil => exact absurd rfl nonempty
    | cons record rest => rfl

/-! ## Writing -/

/-- Writing refuses nothing but values that are too long. -/
theorem writeAll_eq_ok_iff {records : List Record} {buffer : List UInt8} :
    writeAll records = .ok buffer ↔
      (∀ record ∈ records, record.value.length ≤ 255) ∧
        buffer = bytesOfAll records := by
  induction records generalizing buffer with
  | nil =>
      rw [writeAll, Except.ok.injEq]
      simp [eq_comm]
  | cons record rest ih =>
      rw [writeAll]
      split
      · rename_i tooLong
        simp only [reduceCtorEq, false_iff, List.forall_mem_cons]
        intro written
        have short := written.1.1
        omega
      · rename_i short
        simp only [Except.bind_eq_ok_iff, Except.pure_eq_ok_iff, ih,
          List.forall_mem_cons, Nat.not_lt.mp short, true_and, bytesOfAll_cons]
        constructor
        · intro written
          rcases written with ⟨following, ⟨others, rfl⟩, rfl⟩
          exact ⟨others, rfl⟩
        · intro written
          rcases written with ⟨others, rfl⟩
          exact ⟨_, ⟨others, rfl⟩, rfl⟩

/-- A refusal is about the first value that is too long. -/
theorem writeAll_eq_error_iff {records : List Record} {cause : Error} :
    writeAll records = .error cause ↔
      ∃ length,
        (records.map fun record => record.value.length).find? (255 < ·) =
            some length ∧
          cause = .valueTooLong length := by
  induction records with
  | nil => simp [writeAll]
  | cons record rest ih =>
      rw [writeAll, List.map_cons]
      split
      · rename_i tooLong
        simp [tooLong, eq_comm]
      · rename_i short
        simp only [Except.bind_eq_error_iff, ih, Except.pure_ne_error, and_false,
          exists_false, or_false, List.find?_cons, short, decide_false]

/-- What is written is framed, as long as there are few enough records. -/
theorem Framed.of_short {limit : Nat} {records : List Record}
    (few : records.length ≤ limit)
    (short : ∀ record ∈ records, record.value.length ≤ 255) :
    Framed limit (bytesOfAll records) records [] :=
  ⟨(List.append_nil _).symm, short, few, fun filled => absurd rfl filled⟩

end NostrEntities.Record
