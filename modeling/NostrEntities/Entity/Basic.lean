import NostrEntities.Key
import NostrEntities.Kind

/-!
# Entities

What a text form stands for: an id or a key on its own, or a pointer that adds
hints on where to look.
-/

namespace NostrEntities

/-- A profile and relays on which it may be found. -/
structure ProfilePointer where
  publicKey : PublicKey
  relays : List String := []
  deriving DecidableEq

/-- An event, with its author and kind where they are known. -/
structure EventPointer where
  id : EventId
  author : Option PublicKey := none
  kind : Option UInt32 := none
  relays : List String := []
  deriving DecidableEq

/-- An event that is addressed by its kind, its author and an identifier, and may
be replaced by a newer one at the same address. -/
structure Coordinate where
  kind : UInt32
  publicKey : PublicKey
  identifier : String
  relays : List String := []
  deriving DecidableEq

/-- An id, a key, a pointer or the address of a relay. -/
inductive Entity where
  | note (id : EventId)
  | npub (key : PublicKey)
  | nsec (key : SecretKey)
  | nprofile (pointer : ProfilePointer)
  | nevent (pointer : EventPointer)
  | naddr (coordinate : Coordinate)
  | nrelay (url : String)
  deriving DecidableEq

namespace Entity

/-- The kind of an entity. -/
def kind : Entity → Kind
  | .note _ => .bare .note
  | .npub _ => .bare .npub
  | .nsec _ => .bare .nsec
  | .nprofile _ => .tagged .nprofile
  | .nevent _ => .tagged .nevent
  | .naddr _ => .tagged .naddr
  | .nrelay _ => .tagged .nrelay

/-- The same pointer with other relays. An entity without relays stays as it
is. -/
def withRelays (relays : List String) : Entity → Entity
  | .nprofile pointer => .nprofile { pointer with relays }
  | .nevent pointer => .nevent { pointer with relays }
  | .naddr coordinate => .naddr { coordinate with relays }
  | other => other

/-- The same pointer to an event, with its author. -/
def withAuthor (author : PublicKey) : Entity → Entity
  | .nevent pointer => .nevent { pointer with author := some author }
  | other => other

/-- The same pointer to an event, with its kind. -/
def withEventKind (kind : UInt32) : Entity → Entity
  | .nevent pointer => .nevent { pointer with kind := some kind }
  | other => other

end Entity

end NostrEntities
