import NostrEntities.Entity.Codec
import NostrEntities.Key.Curve

/-!
# Entities in hexadecimal

Callers that keep ids and keys as hexadecimal texts describe an entity by five
members, whose meaning depends on the kind. The form of an entity has only the
members that its kind uses, so the entity can be found again from its kind and
its form.
-/

namespace NostrEntities

/-- The members that describe an entity once its kind is known. -/
structure HexForm where
  /-- An event id, a public key or a secret key, depending on the kind. -/
  hex : Option String := none
  author : Option String := none
  kind : Option UInt32 := none
  /-- The identifier of a coordinate, or the address of a relay. -/
  identifier : Option String := none
  relays : List String := []
  deriving DecidableEq, Repr

namespace HexForm

/-- Why a form describes no entity of a kind, or a text has no form. -/
inductive Error where
  | entity (error : Entity.Error)
  | key (error : Bytes32.Error)
  | curve (error : Curve.Error)
  deriving DecidableEq, Repr

namespace Error

/-- The message for a person. -/
def message : Error → String
  | .entity error => error.message
  | .key error => error.message
  | .curve error => error.message

/-- The structured account, under the names that a full report uses. -/
def diagnostic : Error → Diagnostic
  | .entity error => .within "Nip19" error.diagnostic
  | .key error => .within "Types" error.diagnostic
  | .curve error => .within "Secp256k1" error.diagnostic

end Error

/-- The form of an event id on its own. -/
def note (id : String) : HexForm := { hex := some id }

/-- The form of a pointer to an event. -/
def nevent (id : String) (author : Option String) (kind : Option UInt32)
    (relays : List String) : HexForm :=
  { hex := some id, author, kind, relays }

/-- The form of a coordinate. -/
def naddr (kind : UInt32) (author identifier : String) (relays : List String) :
    HexForm :=
  { author := some author, kind := some kind, identifier := some identifier, relays }

/-- The identifier that the tags of an event give it: the value of the first tag
that is named `d` and has a value, or nothing. -/
def identifierOfTags : List (List String) → String
  | [] => ""
  | ("d" :: value :: _) :: _ => value
  | _ :: rest => identifierOfTags rest

/-- The form of the coordinate of an event with the given tags. -/
def naddrOfTags (kind : UInt32) (author : String) (tags : List (List String))
    (relays : List String) : HexForm :=
  naddr kind author (identifierOfTags tags) relays

/-- A member that the kind needs. -/
def require {α : Type} (field : String) : Option α → Except Error α
  | some value => .ok value
  | none => .error (.entity (.missingField field))

/-- Read a key or an id. -/
def readHex (text : String) : Except Error Bytes32 :=
  (Bytes32.ofHex text).mapError .key

/-- The key or id of the form. -/
def requiredHex (form : HexForm) : Except Error Bytes32 := do
  readHex (← require "hex" form.hex)

/-- The author of the form, if it has one. -/
def optionalAuthor (form : HexForm) : Except Error (Option PublicKey) :=
  match form.author with
  | none => .ok none
  | some author => do
      let bytes ← readHex author
      return some ⟨bytes⟩

/-- The author of the form. -/
def requiredAuthor (form : HexForm) : Except Error PublicKey := do
  let bytes ← readHex (← require "author" form.author)
  return ⟨bytes⟩

/-- The entity of a kind that the form describes. Members that the kind does not
use are passed over. -/
def toEntity (form : HexForm) (kind : Kind) : Except Error Entity :=
  match kind with
  | .bare kind => do
      let bytes ← form.requiredHex
      return Entity.ofBytes32 kind bytes
  | .tagged .nprofile => do
      let bytes ← form.requiredHex
      return .nprofile { publicKey := ⟨bytes⟩, relays := form.relays }
  | .tagged .nevent => do
      let bytes ← form.requiredHex
      let author ← form.optionalAuthor
      return .nevent {
        id := ⟨bytes⟩, author, kind := form.kind, relays := form.relays }
  | .tagged .naddr => do
      let kind ← require "kind" form.kind
      let publicKey ← form.requiredAuthor
      return .naddr {
        kind, publicKey
        identifier := form.identifier.getD ""
        relays := form.relays }
  | .tagged .nrelay => do
      let url ← require "relay" form.identifier
      return .nrelay url

/-- The form of an entity. -/
def ofEntity : Entity → HexForm
  | .note id => note id.toHex
  | .npub key => { hex := some key.toHex }
  | .nsec key => { hex := some key.toHex }
  | .nprofile pointer =>
      { hex := some pointer.publicKey.toHex, relays := pointer.relays }
  | .nevent pointer =>
      nevent pointer.id.toHex (pointer.author.map fun author => author.toHex)
        pointer.kind pointer.relays
  | .naddr coordinate =>
      naddr coordinate.kind coordinate.publicKey.toHex coordinate.identifier
        coordinate.relays
  | .nrelay url => { identifier := some url }

/-- Write the text of the entity that a form describes. -/
def encode (kind : Kind) (form : HexForm) : Except Error String := do
  let entity ← form.toEntity kind
  (Entity.encode entity).mapError .entity

/-- Read a text, as a kind and a form. -/
def decode (text : String) : Except Error (Kind × HexForm) := do
  let entity ← (Entity.ofText text).mapError .entity
  return (entity.kind, ofEntity entity)

end HexForm

namespace CurvePublicKey

/-- Write a public key on the curve. -/
def toText (key : CurvePublicKey) : Except HexForm.Error String :=
  key.key.toText.mapError .entity

/-- Read a public key and accept it if it lies on the curve. -/
def ofText (text : String) : Except HexForm.Error CurvePublicKey := do
  let key ← (PublicKey.ofText text).mapError .entity
  key.toCurve.mapError .curve

end CurvePublicKey

namespace CurveSecretKey

/-- Write a secret key that is in range. -/
def toText (key : CurveSecretKey) : Except HexForm.Error String :=
  key.key.toText.mapError .entity

/-- Read a secret key and accept it if it is in range. -/
def ofText (text : String) : Except HexForm.Error CurveSecretKey := do
  let key ← (SecretKey.ofText text).mapError .entity
  key.toCurve.mapError .curve

end CurveSecretKey

end NostrEntities
