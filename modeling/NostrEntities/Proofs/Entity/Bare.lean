import NostrEntities.Proofs.Entity.RoundTrip

/-!
# Texts of bare entities

An id or a key on its own has one text, up to the case of all its letters: the payload
is fixed to the byte, so no padding, length or checksum is left to choose. Reading such
a text as an entity finds what reading it as a bare program finds.
-/

namespace NostrEntities.Entity

theorem exists_eq_ofBytes32 {entity : Entity} (bare : entity.kind.isBare = true) :
    ∃ kind bytes, entity = ofBytes32 kind bytes := by
  cases entity with
  | note id => exact ⟨.note, id.toBytes32, rfl⟩
  | npub key => exact ⟨.npub, key.toBytes32, rfl⟩
  | nsec key => exact ⟨.nsec, key.toBytes32, rfl⟩
  | nprofile pointer | nevent pointer | naddr coordinate | nrelay url => cases bare

/-! ## The text of 32 bytes -/

/-- A bare entity is written as the text of its bytes. -/
theorem encode_ofBytes32_eq_ok_iff {kind : BareKind} {bytes : Bytes32}
    {text : String} :
    encode (ofBytes32 kind bytes) = .ok text ↔
      Spells text (.bare kind) bytes.bytes := by
  simp [encode_eq_ok_iff, kind_ofBytes32, content_ofBytes32, Content.payload]

/-- There is room for 32 bytes in the text of any bare kind. -/
theorem exists_encode_ofBytes32 (kind : BareKind) (bytes : Bytes32) :
    ∃ text, encode (ofBytes32 kind bytes) = .ok text := by
  simp only [encode_ofBytes32_eq_ok_iff]
  rw [exists_spells_iff, Kind.hrp, utf8ByteSize_bareHrp, bytes.length_bytes]
  decide

/-- A text is read as a bare entity exactly when it is in a single case and its lower
case form is written for the entity. -/
theorem outcome_decode_eq_ofBytes32_iff {kind : BareKind} {bytes : Bytes32}
    {text : String} :
    (decode text).outcome = .ok (ofBytes32 kind bytes) ↔
      Text.isMixedCase text.toList = false ∧
        encode (ofBytes32 kind bytes) = .ok text.toLower := by
  rw [encode_ofBytes32_eq_ok_iff, ← Text.ofList_lowered, ← readPayload_eq_ok_iff,
    outcome_decode_eq_ok_iff_carriedBy, kind_ofBytes32, content_ofBytes32]
  simp [Content.CarriedBy]

/-- A bare entity has a text, and only that text and its upper case form are read as
the entity. -/
theorem exists_encode_and_setOf_decode_eq (entity : Entity)
    (bare : entity.kind.isBare = true) :
    ∃ text, encode entity = .ok text ∧
      {other | (decode other).outcome = .ok entity} = {text, text.toUpper} := by
  rcases exists_eq_ofBytes32 bare with ⟨kind, bytes, rfl⟩
  rcases exists_encode_ofBytes32 kind bytes with ⟨text, written⟩
  refine ⟨text, written, ?_⟩
  ext other
  rw [Set.mem_ofPred_eq, Set.mem_insert_iff, Set.mem_singleton_iff,
    outcome_decode_eq_ofBytes32_iff, written, Except.ok.injEq,
    eq_comm (a := text), Text.single_case_and_toLower_eq_iff
      (isUpper_of_encode written)]

/-- The text of a secret key of ones. -/
def fullKeyText : String :=
  "nsec1lllllllllllllllllllllllllllllllllllllllllllllllllllsvg5z5m"

theorem setOf_decode_eq_fullKeyText :
    (Entity.nsec ⟨⟨List.replicate 32 255, rfl⟩⟩).kind.isBare = true ∧
      encode (.nsec ⟨⟨List.replicate 32 255, rfl⟩⟩) = .ok fullKeyText ∧
      {other | (decode other).outcome =
        .ok (.nsec ⟨⟨List.replicate 32 255, rfl⟩⟩)} =
          {fullKeyText, fullKeyText.toUpper} := by
  have written :
      encode (.nsec ⟨⟨List.replicate 32 255, rfl⟩⟩) = .ok fullKeyText := by
    cbv
  rcases exists_encode_and_setOf_decode_eq
    (.nsec ⟨⟨List.replicate 32 255, rfl⟩⟩) rfl with ⟨text, again, same⟩
  rw [written, Except.ok.injEq] at again
  rw [← again] at same
  exact ⟨rfl, written, same⟩

/-! ## Two readers -/

/-- Reading a bare entity comes to the same as reading its bytes as a program: the two
limits on the length agree on texts of 32 bytes. -/
theorem outcome_decode_eq_ofBytes32_iff_witness {kind : BareKind}
    {bytes : Bytes32} {text : String} :
    (decode text).outcome = .ok (ofBytes32 kind bytes) ↔
      Witness.decode .bare kind.hrp text =
        .ok { version := 0, bytes := bytes.bytes } := by
  have named : String.ofList (Text.lowered kind.hrp.toList) = kind.hrp := by
    rw [← Kind.hrp, lowered_hrp, String.ofList_toList]
  rw [outcome_decode_eq_ofBytes32_iff, Witness.decode_eq_ok_iff_encode, named,
    Text.ofList_lowered, encode_bareProgram_eq_ok_iff, encode_ofBytes32_eq_ok_iff]
  exact (and_iff_right rfl).symm

/-- A text is read as the entity of a bare kind with the given bytes exactly when it is
read as a program without a version, under the human-readable part of the kind, and the
program is 32 bytes. -/
theorem exists_outcome_decode_iff_witness (text : String) (kind : BareKind)
    (bytes : List UInt8) :
    (∃ value : Bytes32, value.bytes = bytes ∧
        (decode text).outcome = .ok (ofBytes32 kind value)) ↔
      Witness.decode .bare kind.hrp text = .ok { version := 0, bytes } ∧
        bytes.length = 32 := by
  simp only [outcome_decode_eq_ofBytes32_iff_witness]
  constructor
  · rintro ⟨value, rfl, read⟩
    exact ⟨read, value.length_bytes⟩
  · rintro ⟨read, length⟩
    exact ⟨⟨bytes, length⟩, rfl, read⟩

end NostrEntities.Entity
