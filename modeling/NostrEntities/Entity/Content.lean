import NostrEntities.Entity.Basic
import NostrEntities.Entity.Layout

/-!
# What the text of an entity carries

Between an entity and its text stands its content: 32 bytes for a bare kind, or
the components that the layout of a tagged kind names. The content together with
the kind determines the entity.
-/

namespace NostrEntities.Entity

/-- The kind of an entity together with what its text carries. -/
inductive Content where
  | bare (kind : BareKind) (bytes : Bytes32)
  | tagged (kind : TaggedKind) (payload : Payload)
  deriving DecidableEq

/-- The content of an entity. -/
def content : Entity → Content
  | .note id => .bare .note id.toBytes32
  | .npub key => .bare .npub key.toBytes32
  | .nsec key => .bare .nsec key.toBytes32
  | .nprofile pointer =>
      .tagged .nprofile {
        special := pointer.publicKey.bytes
        relays := pointer.relays }
  | .nevent pointer =>
      .tagged .nevent {
        special := pointer.id.bytes
        relays := pointer.relays
        author := pointer.author
        kind := pointer.kind }
  | .naddr coordinate =>
      .tagged .naddr {
        special := Text.utf8Bytes coordinate.identifier
        relays := coordinate.relays
        author := some coordinate.publicKey
        kind := some coordinate.kind }
  | .nrelay url =>
      .tagged .nrelay { special := Text.utf8Bytes url }

/-- The kind that a content belongs to. -/
def Content.kind : Content → Kind
  | .bare kind _ => .bare kind
  | .tagged kind _ => .tagged kind

/-- The entity of a bare kind. -/
def ofBytes32 (kind : BareKind) (bytes : Bytes32) : Entity :=
  match kind with
  | .note => .note ⟨bytes⟩
  | .npub => .npub ⟨bytes⟩
  | .nsec => .nsec ⟨bytes⟩

/-- The entity of a bare kind, from a payload that has to be 32 bytes. -/
def ofBareBytes (kind : BareKind) (bytes : List UInt8) : Except Error Entity :=
  (readBytes32 kind.hrp bytes).map (ofBytes32 kind)

/-- The entity of a tagged kind. -/
def ofPayload (kind : TaggedKind) (payload : Payload) : Except Error Entity :=
  match kind with
  | .nprofile => do
      let key ← payload.specialKey "pubkey"
      return .nprofile { publicKey := ⟨key⟩, relays := payload.relays }
  | .nevent => do
      let id ← payload.specialKey "id"
      return .nevent {
        id := ⟨id⟩
        author := payload.author
        kind := payload.kind
        relays := payload.relays }
  | .naddr => do
      let kind ← payload.requiredKind
      let publicKey ← payload.requiredAuthor
      let identifier ← payload.specialText "identifier"
      return .naddr { kind, publicKey, identifier, relays := payload.relays }
  | .nrelay => do
      let url ← payload.specialText "relay"
      return .nrelay url

@[simp] theorem kind_content (entity : Entity) :
    entity.content.kind = entity.kind := by
  cases entity <;> rfl

theorem kind_ofBytes32 (kind : BareKind) (bytes : Bytes32) :
    (ofBytes32 kind bytes).kind = .bare kind := by
  cases kind <;> rfl

theorem content_ofBytes32 (kind : BareKind) (bytes : Bytes32) :
    (ofBytes32 kind bytes).content = .bare kind bytes := by
  cases kind <;> rfl

end NostrEntities.Entity
