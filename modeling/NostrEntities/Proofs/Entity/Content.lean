import NostrEntities.Entity.Content
import NostrEntities.Proofs.Entity.Layout

/-!
# Payloads as entities

An entity and its content determine each other, and the content of an entity is
carried by the payloads that read as it. Writing an entity produces such a
payload, and no payload that carries the same content is shorter.
-/

namespace NostrEntities.Entity

open Record (Framed maximumCount)

/-! ## Contents -/

theorem content_eq_bare_iff {entity : Entity} {kind : BareKind}
    {bytes : Bytes32} :
    entity.content = .bare kind bytes ↔ entity = ofBytes32 kind bytes := by
  constructor
  · intro same
    cases entity <;> cases same <;> rfl
  · intro same
    rw [same, content_ofBytes32]

theorem ofBareBytes_eq_ok_iff {kind : BareKind} {buffer : List UInt8}
    {entity : Entity} :
    ofBareBytes kind buffer = .ok entity ↔
      ∃ bytes : Bytes32, buffer = bytes.bytes ∧
        entity.content = .bare kind bytes := by
  simp only [ofBareBytes, Except.map_eq_ok_iff, readBytes32_eq_ok_iff,
    content_eq_bare_iff, eq_comm (b := entity)]

theorem Payload.requiredAuthor_eq_ok_iff {payload : Payload}
    {author : PublicKey} :
    payload.requiredAuthor = .ok author ↔ payload.author = some author := by
  rw [Payload.requiredAuthor]
  cases payload.author <;> simp

theorem Payload.requiredKind_eq_ok_iff {payload : Payload} {kind : UInt32} :
    payload.requiredKind = .ok kind ↔ payload.kind = some kind := by
  rw [Payload.requiredKind]
  cases payload.kind <;> simp

/-- The components of an entity give it back. -/
theorem ofPayload_of_content {entity : Entity} {kind : TaggedKind}
    {payload : Payload} (same : entity.content = .tagged kind payload) :
    ofPayload kind payload = .ok entity := by
  have key : ∀ (field : String) (bytes : Bytes32),
      readBytes32 field bytes.bytes = .ok bytes :=
    fun _ _ => readBytes32_eq_ok_iff.mpr rfl
  have text : ∀ field value : String,
      readText field (Text.utf8Bytes value) = .ok value :=
    fun _ _ => readText_eq_ok_iff.mpr rfl
  cases entity with
  | note id | npub key | nsec key => cases same
  | nprofile pointer | nevent pointer =>
      cases same
      simp only [ofPayload, Payload.specialKey, key]
      rfl
  | naddr coordinate =>
      cases same
      simp only [ofPayload, Payload.requiredKind, Payload.requiredAuthor,
        Payload.specialText, text]
      rfl
  | nrelay url =>
      cases same
      simp only [ofPayload, Payload.specialText, text]
      rfl

/-- Components that fit the layout are those of the entity that they give. -/
theorem content_of_ofPayload {entity : Entity} {kind : TaggedKind}
    {payload : Payload} (fits : kind.layout.Fits payload)
    (read : ofPayload kind payload = .ok entity) :
    entity.content = .tagged kind payload := by
  rcases payload with ⟨special, relays, author, eventKind⟩
  cases kind with
  | nprofile =>
      have noAuthor : author = none := fits.author_agrees.eq_none rfl
      have noKind : eventKind = none := fits.kind_agrees.eq_none rfl
      simp only [ofPayload, Payload.specialKey, Except.bind_eq_ok_iff,
        Except.pure_eq_ok_iff, readBytes32_eq_ok_iff] at read
      rcases read with ⟨key, rfl, rfl⟩
      rw [noAuthor, noKind]
      rfl
  | nevent =>
      simp only [ofPayload, Payload.specialKey, Except.bind_eq_ok_iff,
        Except.pure_eq_ok_iff, readBytes32_eq_ok_iff] at read
      rcases read with ⟨id, rfl, rfl⟩
      rfl
  | naddr =>
      simp only [ofPayload, Payload.specialText, Except.bind_eq_ok_iff,
        Except.pure_eq_ok_iff, readText_eq_ok_iff] at read
      rcases read with ⟨kind, kindThere, key, keyThere, identifier, rfl, rfl⟩
      have author_eq : author = some key :=
        Payload.requiredAuthor_eq_ok_iff.mp keyThere
      have kind_eq : eventKind = some kind :=
        Payload.requiredKind_eq_ok_iff.mp kindThere
      rw [author_eq, kind_eq]
      rfl
  | nrelay =>
      have noRelays : relays = [] := fits.relays_eq_nil rfl
      have noAuthor : author = none := fits.author_agrees.eq_none rfl
      have noKind : eventKind = none := fits.kind_agrees.eq_none rfl
      simp only [ofPayload, Payload.specialText, Except.bind_eq_ok_iff,
        Except.pure_eq_ok_iff, readText_eq_ok_iff] at read
      rcases read with ⟨url, rfl, rfl⟩
      rw [noRelays, noAuthor, noKind]
      rfl

/-! ## Contents in payloads -/

/-- Whether reading a buffer under the kind of a content finds the content. -/
def Content.CarriedBy (buffer : List UInt8) : Content → Prop
  | .bare _ bytes => buffer = bytes.bytes
  | .tagged kind payload => ∃ records tail, records ≠ [] ∧
      Framed maximumCount buffer records tail ∧
      kind.layout.Describes records payload

/-- The buffer that is written for a content. -/
def Content.payload : Content → Except Error (List UInt8)
  | .bare _ bytes => .ok bytes.bytes
  | .tagged kind payload => kind.layout.encode payload

theorem outcome_layoutDecode_eq_ok_iff {layout : Layout} {buffer : List UInt8}
    {payload : Payload} :
    (layout.decode buffer).outcome = .ok payload ↔
      ∃ records tail, records ≠ [] ∧ Framed maximumCount buffer records tail ∧
        layout.Describes records payload := by
  simp only [Layout.decode, Traced.outcome_bind, Traced.outcome_mapError,
    Except.bind_eq_ok_iff, Except.mapError_eq_ok_iff,
    Record.outcome_readAll_eq_ok_iff, Layout.outcome_ofRecords_eq_ok_iff]
  constructor
  · intro read
    rcases read with ⟨records, ⟨nonempty, tail, framed⟩, described⟩
    exact ⟨records, tail, nonempty, framed, described⟩
  · intro carried
    rcases carried with ⟨records, tail, nonempty, framed, described⟩
    exact ⟨records, ⟨nonempty, tail, framed⟩, described⟩

/-- What is written for a payload that fits is read as that payload. -/
theorem outcome_layoutDecode_of_encode {layout : Layout} {payload : Payload}
    {buffer : List UInt8} (fits : layout.Fits payload)
    (written : layout.encode payload = .ok buffer) :
    (layout.decode buffer).outcome = .ok payload := by
  rcases (Layout.encode_eq_ok_iff fits).mp written with ⟨short, rfl⟩
  rw [outcome_layoutDecode_eq_ok_iff]
  exact ⟨layout.records payload, [], List.cons_ne_nil _ _,
    Framed.of_short (Layout.length_records_le fits) short,
    Layout.describes_records fits⟩

/-- The content of an entity has the components that the layout of its kind asks for,
whatever the number of its relays. -/
theorem agrees_of_content {entity : Entity} {kind : TaggedKind} {payload : Payload}
    (same : entity.content = .tagged kind payload) :
    kind.layout.special.Admits payload.special ∧
      (kind.layout.relay = .repeated ∨
        kind.layout.relay = .ignored ∧ payload.relays = []) ∧
      kind.layout.author.Agrees payload.author.isSome ∧
      kind.layout.kind.Agrees payload.kind.isSome := by
  cases entity with
  | note id | npub key | nsec key => cases same
  | nprofile pointer =>
      cases same
      exact ⟨⟨pointer.publicKey.toBytes32, rfl⟩, .inl rfl, ⟨nofun, fun _ => rfl⟩,
        ⟨nofun, fun _ => rfl⟩⟩
  | nevent pointer =>
      cases same
      exact ⟨⟨pointer.id.toBytes32, rfl⟩, .inl rfl, ⟨nofun, nofun⟩, ⟨nofun, nofun⟩⟩
  | naddr coordinate =>
      cases same
      exact ⟨⟨coordinate.identifier, rfl⟩, .inl rfl, ⟨fun _ => rfl, nofun⟩,
        ⟨fun _ => rfl, nofun⟩⟩
  | nrelay url =>
      cases same
      exact ⟨⟨url, rfl⟩, .inr ⟨rfl, rfl⟩, ⟨nofun, fun _ => rfl⟩,
        ⟨nofun, fun _ => rfl⟩⟩

/-- What is written of an entity fits the layout of its kind. -/
theorem fits_of_encode {entity : Entity} {kind : TaggedKind} {payload : Payload}
    {buffer : List UInt8} (same : entity.content = .tagged kind payload)
    (written : kind.layout.encode payload = .ok buffer) :
    kind.layout.Fits payload := by
  rcases agrees_of_content same with ⟨special, relays, author, eventKind⟩
  refine ⟨special, ?_, author, eventKind⟩
  rcases relays with repeated | ⟨ignored, noRelays⟩
  · rw [if_neg (by rw [repeated]; exact nofun)]
    exact Layout.relays_few_of_encode repeated written
  · rw [noRelays]
    exact Nat.zero_le _

/-- The payload that is written for an entity carries its content. -/
theorem carriedBy_of_payload {entity : Entity} {buffer : List UInt8}
    (written : entity.content.payload = .ok buffer) :
    entity.content.CarriedBy buffer := by
  cases same : entity.content with
  | bare kind bytes =>
      rw [same] at written
      cases written
      rfl
  | tagged kind payload =>
      rw [same] at written
      exact outcome_layoutDecode_eq_ok_iff.mp
        (outcome_layoutDecode_of_encode (fits_of_encode same written) written)

/-- What a buffer carries can be written again, without more room. -/
theorem exists_payload_of_carriedBy {content : Content} {buffer : List UInt8}
    (carried : content.CarriedBy buffer) :
    ∃ written, content.payload = .ok written ∧
      written.length ≤ buffer.length := by
  cases content with
  | bare kind bytes => exact ⟨buffer, congrArg _ carried.symm, Nat.le_refl _⟩
  | tagged kind payload =>
      rcases carried with ⟨records, tail, -, framed, described⟩
      -- The records to be written are among those that were read, so their values
      -- are short and take no more room.
      have fewer := described.records_subperm
      refine ⟨Record.bytesOfAll (kind.layout.records payload), ?_, ?_⟩
      · apply (Layout.encode_eq_ok_iff described.fits).mpr
        refine ⟨?_, rfl⟩
        intro record member
        exact framed.short record (fewer.subset member)
      · rw [framed.buffer_eq, List.length_append]
        exact Nat.le_add_right_of_le (Record.length_bytesOfAll_le fewer)

end NostrEntities.Entity
