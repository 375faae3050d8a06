import NostrEntities.Proofs.Guarded.Basic
import NostrEntities.Proofs.Record.Framing

/-!
# Reading records on a machine

A machine goes through a buffer with a position instead of cutting the front off. A
record takes two bytes at least, so there are no more rounds than half the buffer has
bytes. That there is a byte for the length covers the difference that says how many bytes
remain.
-/

namespace NostrEntities.Record

open Guarded

/-- How far a buffer is read: the position of the next record, and the records in front
of it. -/
structure Cursor where
  offset : Nat
  records : List Record
  deriving DecidableEq, Repr

/-- Read the length byte and the value of the record at a position, and return the
position behind it. -/
def guardedReadValue (buffer : List UInt8) (offset : Nat) :
    Guarded Error (List UInt8 × Nat) :=
  match buffer[offset + 1]? with
  | none => fail (.truncated offset 0 0)
  | some length => do
      let start := offset + 2
      let remaining ← subtract buffer.length start
      if start + length.toNat ≤ buffer.length then
        return ((buffer.drop start).take length.toNat, start + length.toNat)
      else fail (.truncated offset length.toNat remaining)

/-- Read the record at a cursor. -/
def guardedReadNext (buffer : List UInt8) (cursor : Cursor) :
    Guarded Error Cursor := do
  let code ← element buffer cursor.offset
  let tag ← Guarded.ofExcept (Tag.ofCode code)
  let (value, behind) ← guardedReadValue buffer cursor.offset
  return { offset := behind, records := cursor.records ++ [⟨tag, value⟩] }

/-- Read records as long as there are bytes and the maximum is not reached, in a limited
number of rounds. -/
def guardedReadUpTo (buffer : List UInt8) (rounds : Nat) (cursor : Cursor) :
    Guarded Error Cursor :=
  if cursor.offset < buffer.length ∧ cursor.records.length < maximumCount then
    match rounds with
    | 0 => stop .unfinished
    | rounds + 1 => do
        let next ← guardedReadNext buffer cursor
        guardedReadUpTo buffer rounds next
  else pure cursor

/-- Leave a notice if bytes are left over. -/
def guardedNotify (buffer : List UInt8) (offset : Nat) : Guarded Error Unit :=
  if offset < buffer.length then do
    let ignored ← subtract buffer.length offset
    ofTraced (Traced.notify (.bytesIgnored maximumCount ignored))
  else pure ()

/-- Read the records of a buffer. There has to be at least one. -/
def guardedReadAll (buffer : List UInt8) : Guarded Error (List Record) := do
  let final ← guardedReadUpTo buffer ((buffer.length + 1) / 2) ⟨0, []⟩
  guardedNotify buffer final.offset
  if final.records.isEmpty then fail .empty else return final.records

variable {buffer rest : List UInt8} {code : UInt8} {cursor next : Cursor}

/-! ## One record -/

/-- The cursor behind a record that is read. -/
def Cursor.behind (cursor : Cursor) (record : Record) : Cursor where
  offset := cursor.offset + record.value.length + 2
  records := cursor.records ++ [record]

/-- The buffer has the length byte, so it ends behind that byte or later. -/
theorem guardedReadValue_eq {offset : Nat} (unread : buffer.drop (offset + 1) = rest) :
    guardedReadValue buffer offset =
      Guarded.ofExcept ((readValue offset rest).map fun parts =>
        (parts.1, offset + parts.1.length + 2)) := by
  rw [guardedReadValue, ← List.head?_drop, unread]
  cases rest with
  | nil => rfl
  | cons length body =>
      have following : buffer.drop (offset + 2) = body := by
        rw [← List.tail_drop, unread, List.tail_cons]
      have size := congrArg List.length unread
      rw [List.length_drop, List.length_cons] at size
      have remaining : buffer.length - (offset + 2) = body.length := by omega
      dsimp only [List.head?_cons]
      rw [subtract_eq_pure (by omega), pure_bind, following, readValue, remaining]
      by_cases enough : body.length < length.toNat
      · rw [if_neg (by omega), if_pos enough]
        rfl
      · have taken : (body.take length.toNat).length = length.toNat :=
          List.length_take_of_le (Nat.not_lt.mp enough)
        have behind : offset + 2 + length.toNat =
            offset + (body.take length.toNat).length + 2 := by
          omega
        rw [if_pos (by omega), if_neg enough, behind]
        rfl

theorem guardedReadNext_eq (unread : buffer.drop cursor.offset = code :: rest) :
    guardedReadNext buffer cursor =
      Guarded.ofExcept ((readOne cursor.offset code rest).map fun parts =>
        cursor.behind parts.1) := by
  have found : buffer[cursor.offset]? = some code := by
    rw [← List.head?_drop, unread, List.head?_cons]
  have following : buffer.drop (cursor.offset + 1) = rest := by
    rw [← List.tail_drop, unread, List.tail_cons]
  rw [guardedReadNext, element_eq_pure found, pure_bind,
    guardedReadValue_eq following, readOne]
  cases Tag.ofCode code with
  | error cause => rfl
  | ok tag =>
      cases readValue cursor.offset rest with
      | error cause => rfl
      | ok parts => rfl

/-- What is unread behind a record. -/
theorem Cursor.drop_behind {record : Record} {following : List UInt8}
    (unread : buffer.drop cursor.offset = code :: rest)
    (read : readOne cursor.offset code rest = .ok (record, following)) :
    buffer.drop (cursor.behind record).offset = following ∧
      (cursor.behind record).offset ≤ buffer.length := by
  rcases readOne_eq_ok_iff.mp read with ⟨-, whole⟩
  rw [whole] at unread
  have size := congrArg List.length unread
  rw [List.length_drop, List.length_append, length_bytes] at size
  constructor
  · have places : (cursor.behind record).offset =
        cursor.offset + record.bytes.length := by
      rw [length_bytes]
      rfl
    rw [places, ← List.drop_drop, unread, List.drop_left]
  · show cursor.offset + record.value.length + 2 ≤ buffer.length
    omega

/-- The next record begins at least two bytes later, and not beyond the end. -/
theorem advances_of_guardedReadNext
    (read : guardedReadNext buffer cursor = pure next) :
    cursor.offset + 2 ≤ next.offset ∧ next.offset ≤ buffer.length := by
  cases unread : buffer.drop cursor.offset with
  | nil =>
      have absent : buffer[cursor.offset]? = none := by
        rw [← List.head?_drop, unread, List.head?_nil]
      rw [guardedReadNext, element, absent] at read
      cases read
  | cons code rest =>
      rw [guardedReadNext_eq unread] at read
      cases one : readOne cursor.offset code rest with
      | error cause =>
          rw [one] at read
          cases read
      | ok parts =>
          rcases parts with ⟨record, following⟩
          rw [one] at read
          cases read
          refine ⟨?_, (Cursor.drop_behind unread one).2⟩
          show cursor.offset + 2 ≤ cursor.offset + record.value.length + 2
          omega

/-! ## The loop -/

/-- The loop ends at once when nothing is unread or no more records are allowed. -/
theorem guardedReadUpTo_of_done (rounds : Nat)
    (ended : buffer.length ≤ cursor.offset ∨ maximumCount ≤ cursor.records.length) :
    guardedReadUpTo buffer rounds cursor = pure cursor := by
  rw [guardedReadUpTo.eq_def, if_neg (by omega)]

/-- One round reads one record. -/
theorem guardedReadUpTo_succ (rounds : Nat)
    (unread : buffer.drop cursor.offset = code :: rest)
    (few : cursor.records.length < maximumCount) :
    guardedReadUpTo buffer (rounds + 1) cursor =
      Guarded.ofExcept (readOne cursor.offset code rest) >>= fun parts =>
        guardedReadUpTo buffer rounds (cursor.behind parts.1) := by
  have size := congrArg List.length unread
  rw [List.length_drop, List.length_cons] at size
  rw [guardedReadUpTo, if_pos (by omega), guardedReadNext_eq unread]
  cases readOne cursor.offset code rest with
  | error cause => rfl
  | ok parts => rfl

/-- The loop reads what is unread, as many records as are allowed besides those in front
of the cursor. Since every round takes two bytes, it needs no more rounds than half the
unread bytes. -/
theorem guardedReadUpTo_eq {rounds count : Nat}
    (room : cursor.records.length + count = maximumCount)
    (inBounds : cursor.offset ≤ buffer.length)
    (enough : buffer.length ≤ cursor.offset + 2 * rounds) :
    guardedReadUpTo buffer rounds cursor =
      Guarded.ofExcept (
        (readUpTo count cursor.offset (buffer.drop cursor.offset)).map fun parts =>
          { offset := buffer.length - parts.2.length
            records := cursor.records ++ parts.1 }) := by
  induction count generalizing cursor rounds with
  | zero =>
      have offset : buffer.length - (buffer.drop cursor.offset).length =
          cursor.offset := by
        rw [List.length_drop]
        omega
      rw [guardedReadUpTo_of_done rounds (.inr (by omega)), readUpTo, Except.map,
        offset, List.append_nil]
      rfl
  | succ count ih =>
      cases unread : buffer.drop cursor.offset with
      | nil =>
          have beyond := List.drop_eq_nil_iff.mp unread
          have offset : buffer.length = cursor.offset := by omega
          rw [guardedReadUpTo_of_done rounds (.inl beyond), readUpTo, Except.map,
            List.append_nil, List.length_nil, Nat.sub_zero, offset]
          rfl
      | cons code rest =>
          have size := congrArg List.length unread
          rw [List.length_drop, List.length_cons] at size
          rcases Nat.exists_eq_succ_of_ne_zero
            (show rounds ≠ 0 by omega) with ⟨others, rfl⟩
          rw [guardedReadUpTo_succ others unread (by omega), readUpTo]
          cases one : readOne cursor.offset code rest with
          | error cause => rfl
          | ok parts =>
              rcases parts with ⟨record, following⟩
              rcases Cursor.drop_behind unread one with ⟨dropped, within⟩
              have roomBehind : (cursor.behind record).records.length + count =
                  maximumCount := by
                rw [Cursor.behind, List.length_append, List.length_singleton]
                omega
              have enoughBehind : buffer.length ≤
                  (cursor.behind record).offset + 2 * others := by
                show _ ≤ cursor.offset + record.value.length + 2 + 2 * others
                omega
              rw [ofExcept_ok, pure_bind, Except.ok_bind,
                ih roomBehind within enoughBehind, dropped]
              dsimp only [Cursor.behind]
              cases readUpTo count (cursor.offset + record.value.length + 2)
                following with
              | error cause => rfl
              | ok parts =>
                  rw [Except.map, Except.ok_bind, List.append_assoc]
                  rfl

/-! ## The whole buffer -/

theorem guardedNotify_eq {tail : List UInt8} (within : tail.length ≤ buffer.length) :
    guardedNotify buffer (buffer.length - tail.length) =
      ofTraced (Traced.notifyIf (!tail.isEmpty)
        (.bytesIgnored maximumCount tail.length)) := by
  cases tail with
  | nil =>
      rw [List.length_nil, Nat.sub_zero, guardedNotify, if_neg (Nat.lt_irrefl _)]
      rfl
  | cons first rest =>
      have positive : 0 < (first :: rest).length := Nat.succ_pos rest.length
      rw [guardedNotify, if_pos (by omega), subtract_eq_pure (Nat.sub_le _ _),
        pure_bind, Nat.sub_sub_self within]
      rfl

/-- A machine reads every buffer without any fault, and its result is that of reading,
with the same notices. -/
theorem guardedReadAll_eq (buffer : List UInt8) :
    guardedReadAll buffer = ofTraced (readAll buffer) := by
  have start : ((⟨0, []⟩ : Cursor).records.length + maximumCount) = maximumCount := rfl
  rw [guardedReadAll, readAll,
    guardedReadUpTo_eq start (Nat.zero_le _) (by dsimp only; omega)]
  dsimp only
  rw [List.drop_zero]
  cases read : readUpTo maximumCount 0 buffer with
  | error cause => rfl
  | ok parts =>
      rcases parts with ⟨records, tail⟩
      have whole := congrArg List.length (readUpTo_eq_ok_iff.mp read).buffer_eq
      rw [List.length_append] at whole
      have within : tail.length ≤ buffer.length := by omega
      rw [Except.map, ofExcept_ok, pure_bind, Traced.ofExcept_ok_bind]
      dsimp only
      rw [List.nil_append]
      refine bind_eq_ofTraced (guardedNotify_eq within) fun _ _ => ?_
      split <;> rfl

end NostrEntities.Record
