import NostrEntities.Entity.Basic
import NostrEntities.Json.Form

/-!
# The JSON forms of keys, pointers and entities

Keys and ids are their hexadecimal text, pointers are objects with a member for
each component. The form of an entity does not name its kind, so reading needs to
be told.
-/

namespace NostrEntities

namespace Kind

/-- A kind is written as its name. -/
def toJson (kind : Kind) : Json := .text kind.hrp

/-- The kind of a name. -/
def ofName (name : String) : Except Json.FormError Kind :=
  match Kind.ofHrp? name with
  | some kind => .ok kind
  | none => .error .malformed

/-- A kind may also be given as an object whose only member bears its name and is
null. -/
def ofJson : Json.Reader Kind
  | .text name => ofName name
  | .object [(name, .null)] => ofName name
  | _ => .error .malformed

end Kind

namespace EventId

/-- An id is written as its digits. -/
def toJson (id : EventId) : Json := .text id.toHex

/-- Read the digits of an id. -/
def ofJson : Json.Reader EventId := fun value =>
  (Json.readBytes32 value).map EventId.mk

end EventId

namespace PublicKey

/-- A public key is written as its digits. -/
def toJson (key : PublicKey) : Json := .text key.toHex

/-- Read the digits of a public key. -/
def ofJson : Json.Reader PublicKey := fun value =>
  (Json.readBytes32 value).map PublicKey.mk

end PublicKey

namespace SecretKey

/-- A secret key is written as its digits: the form is an exchange, not a
display. -/
def toJson (key : SecretKey) : Json := .text key.toHex

/-- Read the digits of a secret key. -/
def ofJson : Json.Reader SecretKey := fun value =>
  (Json.readBytes32 value).map SecretKey.mk

end SecretKey

/-- An event kind is its number. -/
def EventKind.toJson (kind : UInt32) : Json := .number kind.toNat

namespace ProfilePointer

/-- Both members are always written. -/
def toJson (pointer : ProfilePointer) : Json :=
  .object [
    ("public_key", pointer.publicKey.toJson),
    ("relays", .ofTexts pointer.relays)]

/-- Both members have to be there. -/
def ofJson : Json.Reader ProfilePointer :=
  Json.readObject fun members => do
    let publicKey ← Json.readMember members "public_key" PublicKey.ofJson
    let relays ← Json.readMember members "relays" (Json.readList Json.readText)
    return { publicKey, relays }

end ProfilePointer

namespace EventPointer

/-- What is not known of the event is null. -/
def toJson (pointer : EventPointer) : Json :=
  .object [
    ("id", pointer.id.toJson),
    ("author", .ofOption (pointer.author.map PublicKey.toJson)),
    ("kind", .ofOption (pointer.kind.map EventKind.toJson)),
    ("relays", .ofTexts pointer.relays)]

/-- The author and the kind may be absent or null. -/
def ofJson : Json.Reader EventPointer :=
  Json.readObject fun members => do
    let id ← Json.readMember members "id" EventId.ofJson
    let author ← Json.readOptional members "author" PublicKey.ofJson
    let kind ← Json.readOptional members "kind" Json.readEventKind
    let relays ← Json.readMember members "relays" (Json.readList Json.readText)
    return { id, author, kind, relays }

end EventPointer

namespace Coordinate

/-- All members are always written. -/
def toJson (coordinate : Coordinate) : Json :=
  .object [
    ("kind", EventKind.toJson coordinate.kind),
    ("public_key", coordinate.publicKey.toJson),
    ("identifier", .text coordinate.identifier),
    ("relays", .ofTexts coordinate.relays)]

/-- All members have to be there. -/
def ofJson : Json.Reader Coordinate :=
  Json.readObject fun members => do
    let kind ← Json.readMember members "kind" Json.readEventKind
    let publicKey ← Json.readMember members "public_key" PublicKey.ofJson
    let identifier ← Json.readMember members "identifier" Json.readText
    let relays ← Json.readMember members "relays" (Json.readList Json.readText)
    return { kind, publicKey, identifier, relays }

end Coordinate

namespace Entity

/-- The form of the value, which does not name the kind. -/
def toJson : Entity → Json
  | .note id => id.toJson
  | .npub key => key.toJson
  | .nsec key => key.toJson
  | .nprofile pointer => pointer.toJson
  | .nevent pointer => pointer.toJson
  | .naddr coordinate => coordinate.toJson
  | .nrelay url => .text url

/-- Read the form of an entity of a known kind. -/
def ofJson (kind : Kind) : Json.Reader Entity := fun value =>
  match kind with
  | .bare .note => (EventId.ofJson value).map .note
  | .bare .npub => (PublicKey.ofJson value).map .npub
  | .bare .nsec => (SecretKey.ofJson value).map .nsec
  | .tagged .nprofile => (ProfilePointer.ofJson value).map .nprofile
  | .tagged .nevent => (EventPointer.ofJson value).map .nevent
  | .tagged .naddr => (Coordinate.ofJson value).map .naddr
  | .tagged .nrelay => (Json.readText value).map .nrelay

end Entity

end NostrEntities
