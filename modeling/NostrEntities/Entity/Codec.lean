import NostrEntities.Entity.Content

/-!
# The text forms of entities

A bare kind is written as a bare program, a tagged kind as its records under the
first checksum variant. Reading treats both alike up to the payload; only then
does the kind decide how the payload is taken apart.
-/

namespace NostrEntities.Entity

/-- Bytes of the longest text. -/
def maximumLength : Nat := 256

/-- Write the content of an entity. -/
def Content.encode : Content → Except Error String
  | .bare kind bytes =>
      (Witness.encode .bare kind.hrp
        { version := 0, bytes := bytes.bytes }).mapError .witness
  | .tagged kind payload => do
      let bytes ← kind.layout.encode payload
      let words ← (Bech32.wordsOfBytes bytes).mapError .bech32
      (Bech32.encode maximumLength
        { hrp := kind.hrp, words, variant := .bech32 }).mapError .bech32

/-- Write an entity. -/
def encode (entity : Entity) : Except Error String :=
  entity.content.encode

/-- Refuse the second checksum variant. -/
def requireFirstVariant (variant : Bech32.Variant) : Except Error Unit :=
  if variant = .bech32 then .ok () else .error .wrongVariant

/-- The payload of a text and the kind that its human-readable part names. -/
def readPayload (text : String) : Except Error (Kind × List UInt8) := do
  let parts ← (Bech32.decode maximumLength text).mapError .bech32
  requireFirstVariant parts.variant
  let bytes ← (Bech32.bytesOfWords parts.words).mapError .bech32
  let kind ← kindOfHrp parts.hrp
  return (kind, bytes)

/-- Refuse a text that is longer than its kind allows. -/
def requireShort (kind : Kind) (length : Nat) : Except Error Unit :=
  if kind.isBare then
    (Bech32.requireWithin Witness.maximumLength length).mapError .bech32
  else .ok ()

/-- Take an entity out of the payload of a text. -/
def ofKindAndPayload (kind : Kind) (bytes : List UInt8) : Traced Error Entity :=
  match kind with
  | .bare kind => .ofExcept (ofBareBytes kind bytes)
  | .tagged kind => do
      let payload ← kind.layout.decode bytes
      .ofExcept (ofPayload kind payload)

/-- Read an entity of any kind. -/
def decode (text : String) : Traced Error Entity := do
  let (kind, bytes) ← .ofExcept (readPayload text)
  .ofExcept (requireShort kind text.utf8ByteSize)
  Traced.notify (.decoding kind bytes.length)
  ofKindAndPayload kind bytes

/-- Read an entity, without the log. -/
def ofText (text : String) : Except Error Entity :=
  (decode text).outcome

/-- Read an entity of one kind, and take the value of that kind out of it. -/
def ofTextAs {α : Type} (expected : Kind) (value? : Entity → Option α)
    (text : String) : Except Error α := do
  let entity ← ofText text
  match value? entity with
  | some value => return value
  | none => throw (.unexpectedKind expected entity.kind)

end NostrEntities.Entity

namespace NostrEntities

namespace EventId

/-- Write an event id on its own. -/
def toText (id : EventId) : Except Entity.Error String :=
  Entity.encode (.note id)

/-- Read an event id on its own. -/
def ofText : String → Except Entity.Error EventId :=
  Entity.ofTextAs (.bare .note) fun
    | .note id => some id
    | _ => none

end EventId

namespace PublicKey

/-- Write a public key on its own. -/
def toText (key : PublicKey) : Except Entity.Error String :=
  Entity.encode (.npub key)

/-- Read a public key on its own. -/
def ofText : String → Except Entity.Error PublicKey :=
  Entity.ofTextAs (.bare .npub) fun
    | .npub key => some key
    | _ => none

end PublicKey

namespace SecretKey

/-- Write a secret key on its own. -/
def toText (key : SecretKey) : Except Entity.Error String :=
  Entity.encode (.nsec key)

/-- Read a secret key on its own. -/
def ofText : String → Except Entity.Error SecretKey :=
  Entity.ofTextAs (.bare .nsec) fun
    | .nsec key => some key
    | _ => none

end SecretKey

namespace ProfilePointer

/-- Write a pointer to a profile. -/
def toText (pointer : ProfilePointer) : Except Entity.Error String :=
  Entity.encode (.nprofile pointer)

/-- Read a pointer to a profile. -/
def ofText : String → Except Entity.Error ProfilePointer :=
  Entity.ofTextAs (.tagged .nprofile) fun
    | .nprofile pointer => some pointer
    | _ => none

end ProfilePointer

namespace EventPointer

/-- Write a pointer to an event. -/
def toText (pointer : EventPointer) : Except Entity.Error String :=
  Entity.encode (.nevent pointer)

/-- Read a pointer to an event. -/
def ofText : String → Except Entity.Error EventPointer :=
  Entity.ofTextAs (.tagged .nevent) fun
    | .nevent pointer => some pointer
    | _ => none

end EventPointer

namespace Coordinate

/-- Write the coordinate of an event. -/
def toText (coordinate : Coordinate) : Except Entity.Error String :=
  Entity.encode (.naddr coordinate)

/-- Read the coordinate of an event. -/
def ofText : String → Except Entity.Error Coordinate :=
  Entity.ofTextAs (.tagged .naddr) fun
    | .naddr coordinate => some coordinate
    | _ => none

end Coordinate

end NostrEntities
