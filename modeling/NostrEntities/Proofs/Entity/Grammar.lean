import NostrEntities.Entity.Codec
import NostrEntities.Proofs.Bech32.Regroup
import NostrEntities.Proofs.Bech32.RoundTrip
import NostrEntities.Proofs.Entity.Content

/-!
# Texts as entities

Reading a text succeeds exactly when the text is in a single case, its lower case
form spells a payload, and the payload carries the content of the entity. Spelled
out for each kind this is the grammar of the text forms: nothing else is read, and
none of it is refused.
-/

namespace NostrEntities.Entity

open Record (Framed maximumCount values)

/-! ## Human-readable parts -/

theorem hrp_ne_empty (kind : Kind) : kind.hrp ≠ "" := by
  cases kind with
  | bare kind => cases kind <;> decide
  | tagged kind => cases kind <;> decide

/-- Human-readable parts of kinds can be written, and have no separators. -/
theorem mem_hrp {kind : Kind} {character : Char}
    (member : character ∈ kind.hrp.toList) :
    character ≠ Bech32.separator ∧ Bech32.isHrpCharacter character = true ∧
      character.isUpper = false := by
  revert character
  cases kind with
  | bare kind =>
      cases kind <;>
        simp [Kind.hrp, BareKind.hrp, Bech32.separator, Bech32.isHrpCharacter]
  | tagged kind =>
      cases kind <;>
        simp [Kind.hrp, TaggedKind.hrp, Bech32.separator, Bech32.isHrpCharacter]

theorem lowered_hrp (kind : Kind) :
    Text.lowered kind.hrp.toList = kind.hrp.toList :=
  Text.lowered_eq_self fun _ member => (mem_hrp member).2.2

theorem utf8ByteSize_bareHrp (kind : BareKind) : kind.hrp.utf8ByteSize = 4 := by
  cases kind <;> rfl

/-! ## Texts of payloads -/

/-- The text that writes a payload under the human-readable part of a kind. -/
def Spells (text : String) (kind : Kind) (payload : List UInt8) : Prop :=
  ∃ words, Bech32.wordsOfBytes payload = .ok words ∧
    Bech32.encode maximumLength
      { hrp := kind.hrp, words, variant := .bech32 } = .ok text

theorem requireFirstVariant_eq_ok_iff {variant : Bech32.Variant} :
    requireFirstVariant variant = .ok () ↔ variant = .bech32 := by
  cases variant <;> simp [requireFirstVariant]

theorem kindOfHrp_eq_ok_iff {hrp : String} {kind : Kind} :
    kindOfHrp hrp = .ok kind ↔ hrp = kind.hrp := by
  rw [← Kind.ofHrp?_eq_some_iff, kindOfHrp]
  cases Kind.ofHrp? hrp <;> simp

theorem readPayload_eq_ok_iff {text : String} {kind : Kind}
    {payload : List UInt8} :
    readPayload text = .ok (kind, payload) ↔
      Text.isMixedCase text.toList = false ∧
        Spells (String.ofList (Text.lowered text.toList)) kind payload := by
  simp only [readPayload, Except.bind_eq_ok_iff, Except.mapError_eq_ok_iff,
    Except.exists_unit_iff, Except.pure_eq_ok_iff, Prod.mk.injEq,
    requireFirstVariant_eq_ok_iff, kindOfHrp_eq_ok_iff,
    Bech32.bytesOfWords_eq_ok_iff, Bech32.decode_eq_ok_iff]
  constructor
  · intro read
    rcases read with ⟨⟨hrp, words, variant⟩, ⟨single, written⟩, first, bytes,
      regrouped, named, known, rfl, rfl⟩
    cases first
    cases known
    exact ⟨single, words, regrouped, written⟩
  · intro spelled
    rcases spelled with ⟨single, words, regrouped, written⟩
    exact ⟨⟨kind.hrp, words, .bech32⟩, ⟨single, written⟩, rfl, payload, regrouped,
      kind, rfl, rfl, rfl⟩

/-- The payload of a text can be read back. -/
theorem readPayload_of_spells {text : String} {kind : Kind}
    {payload : List UInt8} (spells : Spells text kind payload) :
    readPayload text = .ok (kind, payload) := by
  rcases spells with ⟨words, regrouped, written⟩
  have noUpper := Bech32.isUpper_of_encode written
  rw [readPayload_eq_ok_iff, Text.lowered_eq_self noUpper, String.ofList_toList]
  exact ⟨Text.isMixedCase_eq_false noUpper, words, regrouped, written⟩

/-- A text is as long as its payload, five bits to a character, makes it. -/
theorem utf8ByteSize_of_readPayload {text : String} {kind : Kind}
    {payload : List UInt8} (read : readPayload text = .ok (kind, payload)) :
    text.utf8ByteSize =
      kind.hrp.utf8ByteSize + 7 + (8 * payload.length + 4) / 5 := by
  rcases readPayload_eq_ok_iff.mp read with ⟨single, words, regrouped, written⟩
  rw [Bech32.utf8ByteSize_of_decode
    (Bech32.decode_eq_ok_iff.mpr ⟨single, written⟩),
    Bech32.length_of_wordsOfBytes regrouped]

/-- A payload has a text exactly when the text is not too long. -/
theorem exists_spells_iff {kind : Kind} {payload : List UInt8} :
    (∃ text, Spells text kind payload) ↔
      kind.hrp.utf8ByteSize + 7 + (8 * payload.length + 4) / 5 ≤
        maximumLength := by
  constructor
  · intro spelled
    rcases spelled with ⟨text, words, regrouped, written⟩
    rw [← Bech32.length_of_wordsOfBytes regrouped]
    exact (Bech32.exists_encode_iff.mp ⟨text, written⟩).2.2.2
  · intro fits
    rcases Bech32.exists_wordsOfBytes payload with ⟨words, regrouped⟩
    rw [← Bech32.length_of_wordsOfBytes regrouped] at fits
    have writable : ∃ text, Bech32.encode maximumLength
        { hrp := kind.hrp, words, variant := .bech32 } = .ok text :=
      Bech32.exists_encode_iff.mpr ⟨hrp_ne_empty kind,
        fun _ member => (mem_hrp member).2,
        Bech32.lt_of_wordsOfBytes regrouped, fits⟩
    rcases writable with ⟨text, written⟩
    exact ⟨text, words, regrouped, written⟩

/-- Where a payload is written, a shorter one can be written too. -/
theorem exists_spells_of_length_le {text : String} {kind : Kind}
    {payload shorter : List UInt8} (spells : Spells text kind payload)
    (fewer : shorter.length ≤ payload.length) :
    ∃ other, Spells other kind shorter := by
  have fits := exists_spells_iff.mp ⟨text, spells⟩
  exact exists_spells_iff.mpr (by omega)

/-! ## Entities in payloads -/

/-- A text of a bare kind is short, since 32 bytes are. -/
theorem requireShort_of_carriedBy {text : String} {entity : Entity}
    {payload : List UInt8}
    (read : readPayload text = .ok (entity.kind, payload))
    (carried : entity.content.CarriedBy payload) :
    requireShort entity.kind text.utf8ByteSize = .ok () := by
  have size := utf8ByteSize_of_readPayload read
  rw [← kind_content] at size ⊢
  cases known : entity.content with
  | bare kind bytes =>
      rw [known] at size carried
      rw [carried, bytes.length_bytes, Content.kind, Kind.hrp,
        utf8ByteSize_bareHrp] at size
      rw [size]
      rfl
  | tagged kind components => rfl

theorem outcome_ofKindAndPayload_eq_ok_iff {kind : Kind} {payload : List UInt8}
    {entity : Entity} :
    (ofKindAndPayload kind payload).outcome = .ok entity ↔
      entity.kind = kind ∧ entity.content.CarriedBy payload := by
  rw [← kind_content]
  cases kind with
  | bare kind =>
      rw [ofKindAndPayload, Traced.outcome_ofExcept, ofBareBytes_eq_ok_iff]
      constructor
      · intro read
        rcases read with ⟨bytes, rfl, same⟩
        rw [same]
        exact ⟨rfl, rfl⟩
      · intro read
        rcases read with ⟨same, carried⟩
        cases known : entity.content with
        | bare other bytes =>
            rw [known] at same carried
            cases same
            exact ⟨bytes, carried, rfl⟩
        | tagged other components =>
            rw [known] at same
            cases same
  | tagged kind =>
      simp only [ofKindAndPayload, Traced.outcome_bind, Traced.outcome_ofExcept,
        Except.bind_eq_ok_iff, outcome_layoutDecode_eq_ok_iff]
      constructor
      · intro read
        rcases read with ⟨components, ⟨records, tail, nonempty, framed, described⟩,
          taken⟩
        rw [content_of_ofPayload described.fits taken]
        exact ⟨rfl, records, tail, nonempty, framed, described⟩
      · intro read
        rcases read with ⟨same, carried⟩
        cases known : entity.content with
        | bare other bytes =>
            rw [known] at same
            cases same
        | tagged other components =>
            rw [known] at same carried
            cases same
            exact ⟨components, carried, ofPayload_of_content known⟩

/-- A text is read as an entity exactly when its payload carries the content of
the entity. -/
theorem outcome_decode_eq_ok_iff_carriedBy {text : String} {entity : Entity} :
    (decode text).outcome = .ok entity ↔
      ∃ payload, readPayload text = .ok (entity.kind, payload) ∧
        entity.content.CarriedBy payload := by
  simp only [decode, Traced.outcome_bind, Traced.outcome_ofExcept,
    Traced.outcome_notify, Except.bind_eq_ok_iff, Except.exists_unit_iff,
    Prod.exists, true_and, outcome_ofKindAndPayload_eq_ok_iff]
  constructor
  · rintro ⟨kind, payload, read, -, rfl, carried⟩
    exact ⟨payload, read, carried⟩
  · rintro ⟨payload, read, carried⟩
    exact ⟨entity.kind, payload, read, requireShort_of_carriedBy read carried, rfl,
      carried⟩

/-! ## The grammar -/

/-- Whether the values of records, tag by tag, are the fields of an entity. Of the
values of a tag the first one counts, and of the relays the first ten. -/
def FieldsIn (records : List Record) : Entity → Prop
  | .note _ | .npub _ | .nsec _ => False
  | .nprofile pointer =>
      (values records .special).head? = some pointer.publicKey.bytes ∧
        (values records .relay).take 10 = pointer.relays.map Text.utf8Bytes
  | .nevent pointer =>
      (values records .special).head? = some pointer.id.bytes ∧
        (values records .relay).take 10 = pointer.relays.map Text.utf8Bytes ∧
        (values records .author).head? =
          (pointer.author.map fun author => author.bytes) ∧
        (values records .kind).head? = pointer.kind.map EventKind.toBytes
  | .naddr coordinate =>
      (values records .special).head? =
          some (Text.utf8Bytes coordinate.identifier) ∧
        (values records .relay).take 10 =
          coordinate.relays.map Text.utf8Bytes ∧
        (values records .author).head? = some coordinate.publicKey.bytes ∧
        (values records .kind).head? = some (EventKind.toBytes coordinate.kind)
  | .nrelay url => (values records .special).head? = some (Text.utf8Bytes url)

/-- The payloads of an entity: the 32 bytes of a bare kind, and otherwise between
one and sixteen records with its fields, followed by anything if there are sixteen
of them. -/
def Carries (entity : Entity) (payload : List UInt8) : Prop :=
  match entity with
  | .note id => payload = id.bytes
  | .npub key => payload = key.bytes
  | .nsec key => payload = key.bytes
  | tagged =>
      ∃ records rest, payload = Record.bytesOfAll records ++ rest ∧
        (∀ record ∈ records, record.value.length ≤ 255) ∧
        1 ≤ records.length ∧ records.length ≤ 16 ∧
        (rest ≠ [] → records.length = 16) ∧ tagged.FieldsIn records

theorem describes_iff_fieldsIn {entity : Entity} {kind : TaggedKind}
    {components : Payload} {records : List Record}
    (same : entity.content = .tagged kind components) :
    kind.layout.Describes records components ↔ entity.FieldsIn records := by
  cases entity with
  | note id | npub key | nsec key => cases same
  | nprofile pointer =>
      cases same
      constructor
      · intro described
        exact ⟨described.special_first, described.relays_eq⟩
      · intro fields
        rcases fields with ⟨special, relays⟩
        exact ⟨special, ⟨pointer.publicKey.toBytes32, rfl⟩, relays,
          Presence.selects_ignored.mpr rfl, Presence.selects_ignored.mpr rfl⟩
  | nevent pointer =>
      cases same
      constructor
      · intro described
        exact ⟨described.special_first, described.relays_eq,
          Presence.selects_optional.mp described.author_selected,
          Presence.selects_optional.mp described.kind_selected⟩
      · intro fields
        rcases fields with ⟨special, relays, author, kind⟩
        exact ⟨special, ⟨pointer.id.toBytes32, rfl⟩, relays,
          Presence.selects_optional.mpr author, Presence.selects_optional.mpr kind⟩
  | naddr coordinate =>
      cases same
      constructor
      · intro described
        exact ⟨described.special_first, described.relays_eq,
          Presence.selects_required_some.mp described.author_selected,
          Presence.selects_required_some.mp described.kind_selected⟩
      · intro fields
        rcases fields with ⟨special, relays, author, kind⟩
        exact ⟨special, ⟨coordinate.identifier, rfl⟩, relays,
          Presence.selects_required_some.mpr author,
          Presence.selects_required_some.mpr kind⟩
  | nrelay url =>
      cases same
      constructor
      · intro described
        exact described.special_first
      · intro special
        exact ⟨special, ⟨url, rfl⟩, rfl, Presence.selects_ignored.mpr rfl,
          Presence.selects_ignored.mpr rfl⟩

theorem carriedBy_tagged_iff {entity : Entity} {kind : TaggedKind}
    {components : Payload} {payload : List UInt8}
    (same : entity.content = .tagged kind components) :
    entity.content.CarriedBy payload ↔
      ∃ records rest, payload = Record.bytesOfAll records ++ rest ∧
        (∀ record ∈ records, record.value.length ≤ 255) ∧
        1 ≤ records.length ∧ records.length ≤ 16 ∧
        (rest ≠ [] → records.length = 16) ∧ entity.FieldsIn records := by
  rw [same]
  apply exists_congr
  intro records
  apply exists_congr
  intro rest
  rw [describes_iff_fieldsIn same, ← List.length_pos_iff]
  constructor
  · intro carried
    rcases carried with ⟨nonempty, framed, fields⟩
    exact ⟨framed.buffer_eq, framed.short, nonempty, framed.count_le,
      framed.full_of_tail, fields⟩
  · intro carried
    rcases carried with ⟨whole, short, nonempty, few, full, fields⟩
    exact ⟨nonempty, ⟨whole, short, few, full⟩, fields⟩

theorem carries_iff_carriedBy {entity : Entity} {payload : List UInt8} :
    entity.Carries payload ↔ entity.content.CarriedBy payload := by
  cases entity with
  | note id | npub key | nsec key => exact Iff.rfl
  | nprofile pointer | nevent pointer | naddr coordinate | nrelay url =>
      exact (carriedBy_tagged_iff rfl).symm

/-- A text is read as an entity exactly when no two of its letters differ in case
and its lower case form is the text, under the human-readable part of the kind, of
a payload with the fields of the entity. -/
theorem outcome_decode_eq_ok_iff (text : String) (entity : Entity) :
    (decode text).outcome = .ok entity ↔
      ∃ payload,
        ¬ ((∃ character ∈ text.toList, character.isLower = true) ∧
          ∃ character ∈ text.toList, character.isUpper = true) ∧
        (∃ words, Bech32.wordsOfBytes payload = .ok words ∧
          Bech32.encode 256
            { hrp := entity.kind.hrp, words, variant := .bech32 } =
              .ok (String.ofList (text.toList.map Char.toLower))) ∧
        entity.Carries payload := by
  rw [outcome_decode_eq_ok_iff_carriedBy]
  apply exists_congr
  intro payload
  rw [readPayload_eq_ok_iff, carries_iff_carriedBy, ← Text.isMixedCase_iff,
    Bool.not_eq_true, and_assoc]
  rfl

end NostrEntities.Entity
