import NostrEntities.Bech32.Error
import NostrEntities.Traced

/-!
# Tagged records

A record is one byte for its tag, one byte for the length of its value, and the
value. A sequence of records is read from the front of a buffer, no more than
sixteen of them; what comes after those is left unread, with a notice.
-/

namespace NostrEntities

/-- What the value of a record is about. -/
inductive Tag where
  /-- The primary value of the entity. -/
  | special
  | relay
  | author
  | kind
  deriving DecidableEq, Repr

/-- A tag with its value. -/
structure Record where
  tag : Tag
  value : List UInt8
  deriving DecidableEq, Repr

namespace Record

/-- Why a buffer holds no records, or records do not fit into one. -/
inductive Error where
  | unknownTag (code : UInt8)
  | truncated (offset length remaining : Nat)
  | empty
  | valueTooLong (length : Nat)
  deriving DecidableEq, Repr

namespace Error

/-- The message for a person. -/
def message : Error → String
  | .unknownTag code => s!"Unknown TLV type: {code}"
  | .truncated offset length remaining =>
      s!"Truncated TLV at offset {offset}: length {length}, {remaining} bytes remaining"
  | .empty => "Empty TLV sequence"
  | .valueTooLong length => s!"TLV value too long: {length} bytes"

/-- The structured account, under the names that a full report uses. -/
def diagnostic : Error → Diagnostic
  | .unknownTag code =>
      .cause "UnknownType" (.single (.number code.toNat))
  | .truncated offset length remaining =>
      .cause "Truncated"
        (.named [("offset", .number offset), ("length", .number length),
          ("remaining", .number remaining)])
  | .empty => .plain "Empty"
  | .valueTooLong length => .cause "ValueTooLong" (.single (.number length))

end Error

end Record

namespace Tag

/-- The byte that writes a tag. -/
def code : Tag → UInt8
  | .special => 0
  | .relay => 1
  | .author => 2
  | .kind => 3

/-- The tag that a byte writes. -/
def ofCode (code : UInt8) : Except Record.Error Tag :=
  match code with
  | 0 => .ok .special
  | 1 => .ok .relay
  | 2 => .ok .author
  | 3 => .ok .kind
  | _ => .error (.unknownTag code)

@[simp] theorem ofCode_code (tag : Tag) : ofCode tag.code = .ok tag := by
  cases tag <;> rfl

theorem ofCode_eq_ok_iff {code : UInt8} {tag : Tag} :
    ofCode code = .ok tag ↔ code = tag.code := by
  constructor
  · intro read
    unfold ofCode at read
    split at read <;> cases read <;> rfl
  · rintro rfl
    exact ofCode_code tag

end Tag

namespace Record

/-- Records that are read from one buffer. -/
def maximumCount : Nat := 16

/-- The bytes of a record whose value has at most 255 bytes. -/
def bytes (record : Record) : List UInt8 :=
  record.tag.code :: record.value.length.toUInt8 :: record.value

@[simp] theorem length_bytes (record : Record) :
    record.bytes.length = record.value.length + 2 := by
  simp [bytes]

/-- Write records one after the other. The first value that its length byte
cannot hold is refused. -/
def writeAll : List Record → Except Error (List UInt8)
  | [] => .ok []
  | record :: rest =>
      if 255 < record.value.length then
        .error (.valueTooLong record.value.length)
      else do
        let following ← writeAll rest
        return record.bytes ++ following

/-- Read the length byte and the value of a record, and return what follows them.
`offset` is the position of the record. -/
def readValue (offset : Nat) :
    List UInt8 → Except Error (List UInt8 × List UInt8)
  | [] => .error (.truncated offset 0 0)
  | length :: body =>
      if body.length < length.toNat then
        .error (.truncated offset length.toNat body.length)
      else .ok (body.take length.toNat, body.drop length.toNat)

/-- What is read of a value and what is left over make up the rest of the buffer,
behind the length byte. -/
theorem readValue_eq_ok_iff {offset : Nat} {buffer value following : List UInt8} :
    readValue offset buffer = .ok (value, following) ↔
      value.length ≤ 255 ∧
        buffer = value.length.toUInt8 :: (value ++ following) := by
  constructor
  · intro read
    cases buffer with
    | nil => cases read
    | cons length body =>
        simp only [readValue] at read
        split at read
        · cases read
        · rename_i enough
          cases read
          have inBounds := length.toNat_lt
          have taken : (body.take length.toNat).length = length.toNat := by
            simp; omega
          refine ⟨by omega, ?_⟩
          rw [taken, List.take_append_drop]
          simp
  · rintro ⟨short, rfl⟩
    have whole : value.length.toUInt8.toNat = value.length := by
      simp; omega
    simp [readValue, whole]

/-- Read one record from the front of a nonempty buffer, given by its tag byte
and what follows it. `offset` is the position of the record. -/
def readOne (offset : Nat) (code : UInt8) (rest : List UInt8) :
    Except Error (Record × List UInt8) := do
  let tag ← Tag.ofCode code
  let (value, following) ← readValue offset rest
  return (⟨tag, value⟩, following)

theorem readOne_eq_ok_iff {offset : Nat} {code : UInt8}
    {rest following : List UInt8} {record : Record} :
    readOne offset code rest = .ok (record, following) ↔
      record.value.length ≤ 255 ∧ code :: rest = record.bytes ++ following := by
  constructor
  · intro read
    unfold readOne at read
    cases known : Tag.ofCode code with
    | error cause => simp [known, bind, Except.bind] at read
    | ok tag =>
        cases taken : readValue offset rest with
        | error cause => simp [known, taken, bind, Except.bind] at read
        | ok parts =>
            simp only [known, taken, bind, Except.bind, pure, Except.pure] at read
            cases read
            obtain ⟨short, rfl⟩ := readValue_eq_ok_iff.mp taken
            rw [Tag.ofCode_eq_ok_iff.mp known]
            exact ⟨short, by simp [bytes]⟩
  · rintro ⟨short, whole⟩
    simp only [bytes, List.cons_append, List.cons.injEq] at whole
    obtain ⟨rfl, rfl⟩ := whole
    have taken :
        readValue offset
          (record.value.length.toUInt8 :: (record.value ++ following)) =
          .ok (record.value, following) :=
      readValue_eq_ok_iff.mpr ⟨short, rfl⟩
    simp [readOne, taken, bind, Except.bind, pure, Except.pure]

/-- Read up to `count` records from a buffer that starts at `offset`, and return
what is left unread. -/
def readUpTo : (count offset : Nat) → (buffer : List UInt8) →
    Except Error (List Record × List UInt8)
  | 0, _, buffer => .ok ([], buffer)
  | _ + 1, _, [] => .ok ([], [])
  | count + 1, offset, code :: rest => do
      let (record, following) ← readOne offset code rest
      let (records, tail) ←
        readUpTo count (offset + record.value.length + 2) following
      return (record :: records, tail)

/-- Read the records of a buffer. There has to be at least one. -/
def readAll (buffer : List UInt8) : Traced Error (List Record) := do
  let (records, tail) ← .ofExcept (readUpTo maximumCount 0 buffer)
  Traced.notifyIf (!tail.isEmpty) (.bytesIgnored maximumCount tail.length)
  if records.isEmpty then .fail .empty else return records

/-- The first record with a tag. -/
def first? (records : List Record) (tag : Tag) : Option Record :=
  records.find? (·.tag == tag)

/-- All records with a tag, in their order. -/
def withTag (records : List Record) (tag : Tag) : List Record :=
  records.filter (·.tag == tag)

theorem first?_eq_head?_withTag (records : List Record) (tag : Tag) :
    first? records tag = (withTag records tag).head? := by
  simp [first?, withTag]

end Record

end NostrEntities
