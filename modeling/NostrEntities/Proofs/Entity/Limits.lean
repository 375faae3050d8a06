import NostrEntities.Proofs.Entity.Bare

/-!
# Limits on the text of an entity

Whether an entity has a text is decided by three numbers: how many relays it has, how
long each of its values is, and how long the text would be. The limits are compared in
this order, and nothing else is ever in the way. An entity within all of them has a
text of exactly the length that its fields add up to.
-/

namespace NostrEntities.Entity

/-! ## Sizes -/

/-- The relays of an entity. Entities that are no pointers have none. -/
def relays : Entity → List String
  | .note _ | .npub _ | .nsec _ | .nrelay _ => []
  | .nprofile pointer => pointer.relays
  | .nevent pointer => pointer.relays
  | .naddr coordinate => coordinate.relays

/-- Lengths of the values that are written in records, in their order: the primary
value, the relays, the author and the kind. -/
def valueLengths : Entity → List Nat
  | .note _ | .npub _ | .nsec _ => []
  | .nprofile pointer => 32 :: pointer.relays.map String.utf8ByteSize
  | .nevent pointer =>
      32 :: (pointer.relays.map String.utf8ByteSize ++
        (pointer.author.toList.map fun _ => 32) ++
        (pointer.kind.toList.map fun _ => 4))
  | .naddr coordinate =>
      coordinate.identifier.utf8ByteSize ::
        (coordinate.relays.map String.utf8ByteSize ++ [32] ++ [4])
  | .nrelay url => [url.utf8ByteSize]

/-- Bytes that the text of an entity carries: 32 on their own, or two more than the
value for each record. -/
def payloadLength (entity : Entity) : Nat :=
  if entity.kind.isBare then 32
  else (entity.valueLengths.map fun length => 2 + length).sum

/-- Characters of the text of an entity: the human-readable part, the separator and the
checksum, and a symbol for every five bits of the payload that are begun. -/
def textLength (entity : Entity) : Nat :=
  entity.kind.hrp.utf8ByteSize + 7 + (8 * entity.payloadLength + 4) / 5

variable {entity : Entity} {kind : TaggedKind} {payload : Payload} {cause : Error}

theorem kind_of_content {content : Content} (same : entity.content = content) :
    entity.kind = content.kind := by
  rw [← same, kind_content]

theorem relays_of_content (same : entity.content = .tagged kind payload) :
    payload.relays = entity.relays := by
  cases entity <;> cases same <;> rfl

theorem valueLengths_of_content (same : entity.content = .tagged kind payload) :
    ((kind.layout.records payload).map fun record => record.value.length) =
      entity.valueLengths := by
  cases entity with
  | note id | npub key | nsec key => cases same
  | nprofile pointer | naddr pointer | nrelay pointer =>
      cases same
      simp [Layout.records, TaggedKind.layout, Presence.records, valueLengths,
        Bytes32.length_bytes]
  | nevent pointer =>
      cases same
      rcases pointer with ⟨id, author, eventKind, hints⟩
      cases author <;> cases eventKind <;>
        simp [Layout.records, TaggedKind.layout, Presence.records, valueLengths,
          Bytes32.length_bytes]

/-! ## The payload -/

/-- Relays are counted where they are repeated; where they are ignored there are
none. -/
theorem repeated_and_many_iff (same : entity.content = .tagged kind payload) :
    (kind.layout.relay = .repeated ∧ maximumRelays < entity.relays.length) ↔
      maximumRelays < entity.relays.length := by
  rw [and_iff_right_iff_imp]
  intro many
  rcases agrees_of_content same with ⟨-, repeated | ⟨-, noRelays⟩, -⟩
  · exact repeated
  · rw [← relays_of_content same, noRelays] at many
    exact absurd many (Nat.not_lt_zero _)

theorem layoutEncode_of_content (same : entity.content = .tagged kind payload) :
    kind.layout.encode payload =
      kind.layout.relay.requireFew entity.relays.length >>= fun _ =>
        (Record.writeAll (kind.layout.records payload)).mapError .record := by
  rcases agrees_of_content same with ⟨special, -, author, eventKind⟩
  rw [Layout.encode_of_agrees special author eventKind, relays_of_content same]

/-- The payload of a pointer or a relay is refused for too many relays, or else for the
first value that is too long. -/
theorem layoutEncode_eq_error_iff (same : entity.content = .tagged kind payload) :
    kind.layout.encode payload = .error cause ↔
      maximumRelays < entity.relays.length ∧
          cause = .tooManyRelays entity.relays.length ∨
        entity.relays.length ≤ maximumRelays ∧
          ∃ length, entity.valueLengths.find? (255 < ·) = some length ∧
            cause = .record (.valueTooLong length) := by
  rw [layoutEncode_of_content same, Except.bind_eq_error_iff, Except.exists_unit_iff,
    Presence.requireFew_eq_error_iff, Presence.requireFew_eq_ok_iff, ← Nat.not_lt,
    ← not_and, repeated_and_many_iff same, Except.mapError_eq_error_iff]
  simp only [Record.writeAll_eq_error_iff, valueLengths_of_content same]
  constructor
  · intro refused
    rcases refused with many | ⟨few, _, ⟨length, found, rfl⟩, rfl⟩
    · exact .inl many
    · exact .inr ⟨few, length, found, rfl⟩
  · intro refused
    rcases refused with many | ⟨few, length, found, rfl⟩
    · exact .inl many
    · exact .inr ⟨few, _, ⟨length, found, rfl⟩, rfl⟩

/-- Otherwise it is written, with two bytes more than the value for each record. -/
theorem exists_layoutEncode_iff (same : entity.content = .tagged kind payload) :
    (∃ bytes, kind.layout.encode payload = .ok bytes) ↔
      entity.relays.length ≤ maximumRelays ∧
        entity.valueLengths.find? (255 < ·) = none := by
  simp only [layoutEncode_of_content same, Except.bind_eq_ok_iff,
    Except.exists_unit_iff, Presence.requireFew_eq_ok_iff, Except.mapError_eq_ok_iff,
    Record.writeAll_eq_ok_iff, ← valueLengths_of_content same]
  rw [← Nat.not_lt, ← repeated_and_many_iff same, not_and, Nat.not_lt]
  simp

theorem length_of_layoutEncode {bytes : List UInt8}
    (same : entity.content = .tagged kind payload)
    (written : kind.layout.encode payload = .ok bytes) :
    bytes.length = entity.payloadLength := by
  have tagged : entity.kind.isBare = false := by
    rw [kind_of_content same]
    rfl
  rcases Layout.encode_eq_ok_iff_checked.mp written with ⟨-, -, -, -, -, produced⟩
  rw [produced, Record.length_bytesOfAll, payloadLength, tagged,
    ← valueLengths_of_content same, List.map_map]
  rfl

/-! ## The text -/

/-- A payload is refused for the length of its text only. -/
theorem spelling_eq_error_iff {kind : Kind} {bytes words : List UInt8}
    {cause : Bech32.Error} (regrouped : Bech32.wordsOfBytes bytes = .ok words) :
    Bech32.encode maximumLength { hrp := kind.hrp, words, variant := .bech32 } =
        .error cause ↔
      maximumLength < kind.hrp.utf8ByteSize + 7 + (8 * bytes.length + 4) / 5 ∧
        cause = .lengthExceeded
          (kind.hrp.utf8ByteSize + 7 + (8 * bytes.length + 4) / 5) maximumLength := by
  rw [← Bech32.length_of_wordsOfBytes regrouped]
  exact Bech32.encode_eq_error_iff (hrp_ne_empty kind)
    (fun _ member => (mem_hrp member).2) (Bech32.lt_of_wordsOfBytes regrouped)

/-- Once the payload of a pointer or a relay is written, only the length of the text can
be in the way. -/
theorem encode_eq_error_iff_of_payload {bytes : List UInt8}
    (same : entity.content = .tagged kind payload)
    (written : kind.layout.encode payload = .ok bytes) :
    encode entity = .error cause ↔
      maximumLength < entity.textLength ∧
        cause = .bech32 (.lengthExceeded entity.textLength maximumLength) := by
  rcases Bech32.exists_wordsOfBytes bytes with ⟨words, regrouped⟩
  have named : entity.kind = .tagged kind := kind_of_content same
  have size : (Kind.tagged kind).hrp.utf8ByteSize + 7 + (8 * bytes.length + 4) / 5 =
      entity.textLength := by
    rw [length_of_layoutEncode same written, textLength, named]
  rw [encode, same, Content.encode, written, Except.ok_bind, regrouped, ← size]
  change (Bech32.encode maximumLength
    { hrp := (Kind.tagged kind).hrp, words, variant := .bech32 }).mapError .bech32 =
      .error cause ↔ _
  simp only [Except.mapError_eq_error_iff, spelling_eq_error_iff regrouped]
  constructor
  · intro refused
    rcases refused with ⟨_, ⟨long, rfl⟩, rfl⟩
    exact ⟨long, rfl⟩
  · intro refused
    rcases refused with ⟨long, rfl⟩
    exact ⟨_, ⟨long, rfl⟩, rfl⟩

/-- A pointer or a relay is refused with its payload, or for the length of its text. -/
theorem encode_eq_error_iff_of_content (same : entity.content = .tagged kind payload) :
    encode entity = .error cause ↔
      kind.layout.encode payload = .error cause ∨
        (∃ bytes, kind.layout.encode payload = .ok bytes) ∧
          maximumLength < entity.textLength ∧
          cause = .bech32 (.lengthExceeded entity.textLength maximumLength) := by
  cases outcome : kind.layout.encode payload with
  | error original =>
      rw [encode, same, Content.encode, outcome, Except.error_bind]
      simp
  | ok bytes =>
      rw [encode_eq_error_iff_of_payload same outcome]
      simp

/-- 32 bytes and the checksum fill 58 symbols behind four letters and the separator. -/
theorem textLength_ofBytes32 (kind : BareKind) (bytes : Bytes32) :
    (ofBytes32 kind bytes).textLength = 63 := by
  have bare : (Kind.bare kind).isBare = true := rfl
  rw [textLength, payloadLength, kind_ofBytes32, if_pos bare, Kind.hrp,
    utf8ByteSize_bareHrp]

/-- An entity is refused for too many relays, or else for the first value that is too
long, or else for the length of its text, and for nothing else. -/
theorem encode_eq_error_iff :
    encode entity = .error cause ↔
      maximumRelays < entity.relays.length ∧
          cause = .tooManyRelays entity.relays.length ∨
        entity.relays.length ≤ maximumRelays ∧
            (∃ length, entity.valueLengths.find? (255 < ·) = some length ∧
              cause = .record (.valueTooLong length)) ∨
        entity.relays.length ≤ maximumRelays ∧
            entity.valueLengths.find? (255 < ·) = none ∧
            maximumLength < entity.textLength ∧
            cause = .bech32 (.lengthExceeded entity.textLength maximumLength) := by
  cases same : entity.content with
  | bare kind bytes =>
      rw [content_eq_bare_iff.mp same]
      rcases exists_encode_ofBytes32 kind bytes with ⟨text, written⟩
      have noRelays : (ofBytes32 kind bytes).relays = [] := by cases kind <;> rfl
      have noValues : (ofBytes32 kind bytes).valueLengths = [] := by cases kind <;> rfl
      rw [written, noRelays, noValues, textLength_ofBytes32]
      simp [maximumLength]
  | tagged kind payload =>
      rw [encode_eq_error_iff_of_content same, layoutEncode_eq_error_iff same,
        exists_layoutEncode_iff same, or_assoc, and_assoc]

theorem exists_encode_iff :
    (∃ text, encode entity = .ok text) ↔
      entity.relays.length ≤ maximumRelays ∧
        entity.valueLengths.find? (255 < ·) = none ∧
        entity.textLength ≤ maximumLength := by
  rw [Except.exists_eq_ok_iff]
  constructor
  · intro notRefused
    have few : entity.relays.length ≤ maximumRelays := by
      by_contra many
      exact notRefused _ (encode_eq_error_iff.mpr (.inl ⟨Nat.not_le.mp many, rfl⟩))
    have short : entity.valueLengths.find? (255 < ·) = none := by
      cases found : entity.valueLengths.find? (255 < ·) with
      | none => rfl
      | some length =>
          exact absurd (encode_eq_error_iff.mpr (.inr (.inl ⟨few, length, found, rfl⟩)))
            (notRefused _)
    refine ⟨few, short, ?_⟩
    by_contra long
    exact notRefused _ (encode_eq_error_iff.mpr
      (.inr (.inr ⟨few, short, Nat.not_le.mp long, rfl⟩)))
  · intro within cause refused
    rcases within with ⟨few, short, fits⟩
    rcases encode_eq_error_iff.mp refused with
      ⟨many, -⟩ | ⟨-, length, found, -⟩ | ⟨-, -, long, -⟩
    · exact absurd few (Nat.not_le.mpr many)
    · rw [short] at found
      cases found
    · exact absurd fits (Nat.not_le.mpr long)

/-! ## The form of the text -/

theorem Spells.length_text {text : String} {kind : Kind} {bytes : List UInt8}
    (spells : Spells text kind bytes) :
    text.utf8ByteSize = kind.hrp.utf8ByteSize + 7 + (8 * bytes.length + 4) / 5 :=
  utf8ByteSize_of_readPayload (readPayload_of_spells spells)

theorem Spells.characters {text : String} {kind : Kind} {bytes : List UInt8}
    (spells : Spells text kind bytes) :
    ∀ character ∈ text.toList,
      Bech32.isAscii character = true ∧ character.isUpper = false := by
  rcases spells with ⟨words, -, written⟩
  intro character member
  rcases Bech32.decode_eq_ok_iff_reads.mp (Bech32.decode_of_encode written) with
    ⟨hrp, data, reads, -⟩
  exact ⟨reads.ascii character member, Bech32.isUpper_of_encode written character member⟩

theorem Spells.exists_data {text : String} {kind : Kind} {bytes : List UInt8}
    (spells : Spells text kind bytes) : ∃ data, text = kind.hrp ++ "1" ++ data := by
  rcases spells with ⟨words, -, written⟩
  rcases Bech32.encode_eq_ok_iff.mp written with ⟨symbols, -, rfl⟩
  refine ⟨String.ofList ((symbols ++ Bech32.checksum kind.hrp.toList symbols
    .bech32).map Bech32.Word.symbol), ?_⟩
  rw [← String.toList_inj, Bech32.assemble]
  simp only [String.toList_append, String.toList_ofList, List.append_assoc]
  rfl

theorem length_payload {bytes : List UInt8}
    (produced : entity.content.payload = .ok bytes) :
    bytes.length = entity.payloadLength := by
  cases same : entity.content with
  | bare kind value =>
      have bare : entity.kind.isBare = true := by
        rw [kind_of_content same]
        rfl
      rw [same, Content.payload, Except.ok.injEq] at produced
      rw [← produced, value.length_bytes, payloadLength, if_pos bare]
  | tagged kind payload =>
      rw [same] at produced
      exact length_of_layoutEncode same produced

/-- A text that is written is in lower case, starts with the human-readable part and
the separator, and is as long as the fields add up to. -/
theorem form_of_encode {text : String} (written : encode entity = .ok text) :
    text.length = entity.textLength ∧ text.utf8ByteSize = entity.textLength ∧
      (∀ character ∈ text.toList,
        character.toNat < 128 ∧ character.isUpper = false) ∧
      ∃ data, text = entity.kind.hrp ++ "1" ++ data := by
  rcases encode_eq_ok_iff.mp written with ⟨payload, produced, spells⟩
  have size := spells.length_text
  rw [length_payload produced] at size
  have ascii : ∀ character ∈ text.toList, Bech32.isAscii character = true :=
    fun character member => (spells.characters character member).1
  refine ⟨?_, size, ?_, spells.exists_data⟩
  · rw [← String.length_toList, ← Bech32.utf8ByteSize_eq_length ascii, size]
    rfl
  · intro character member
    exact ⟨of_decide_eq_true (ascii character member),
      (spells.characters character member).2⟩

/-- Writing an entity on its own always succeeds, with 63 characters. Writing any entity
is refused for more than ten relays, or else for the first value of more than 255
bytes, or else for a text of more than 256 characters, and for nothing else; it
succeeds within these limits, with a text in lower case of the length that the fields
add up to. -/
theorem encode_outcome_iff (entity : Entity) :
    (∀ kind bytes, ∃ text, encode (ofBytes32 kind bytes) = .ok text ∧
        text.length = 63) ∧
      (∀ cause, encode entity = .error cause ↔
        10 < entity.relays.length ∧
            cause = .tooManyRelays entity.relays.length ∨
          entity.relays.length ≤ 10 ∧
              (∃ length, entity.valueLengths.find? (255 < ·) = some length ∧
                cause = .record (.valueTooLong length)) ∨
          entity.relays.length ≤ 10 ∧
              (∀ length ∈ entity.valueLengths, length ≤ 255) ∧
              256 < entity.textLength ∧
              cause = .bech32 (.lengthExceeded entity.textLength 256)) ∧
      ((∃ text, encode entity = .ok text ∧
          text.length = entity.textLength ∧
          text.utf8ByteSize = entity.textLength ∧
          (∀ character ∈ text.toList,
            character.toNat < 128 ∧ character.isUpper = false) ∧
          ∃ data, text = entity.kind.hrp ++ "1" ++ data) ↔
        entity.relays.length ≤ 10 ∧
          (∀ length ∈ entity.valueLengths, length ≤ 255) ∧
          entity.textLength ≤ 256) := by
  have short : entity.valueLengths.find? (255 < ·) = none ↔
      ∀ length ∈ entity.valueLengths, length ≤ 255 := by
    simp
  refine ⟨?_, ?_, ?_⟩
  · intro kind bytes
    rcases exists_encode_ofBytes32 kind bytes with ⟨text, written⟩
    exact ⟨text, written, (form_of_encode written).1.trans
      (textLength_ofBytes32 kind bytes)⟩
  · intro cause
    rw [← short]
    exact encode_eq_error_iff
  · rw [← short]
    apply Iff.trans _ exists_encode_iff
    constructor
    · rintro ⟨text, written, -⟩
      exact ⟨text, written⟩
    · rintro ⟨text, written⟩
      exact ⟨text, written, form_of_encode written⟩

/-- Ten relays are the most, even where they are all empty. -/
example : encode (.nprofile { publicKey := ⟨.zero⟩, relays := List.replicate 11 "" }) =
    .error (.tooManyRelays 11) := by
  cbv

end NostrEntities.Entity
