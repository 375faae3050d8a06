import NostrEntities.Entity.Error
import NostrEntities.EventKind
import NostrEntities.Key

/-!
# Layouts of tagged records

A tagged kind fixes the form of its primary value and which other records it
carries. One reader and one writer serve every layout. Records are written in the
order special, relays, author, kind; they are read in any order, and the first
record of a tag counts, except that relays may repeat.
-/

namespace NostrEntities.Entity

/-- Whether a layout carries a component. -/
inductive Presence where
  | required
  | optional
  /-- Any number of times, up to the limit on relays. -/
  | repeated
  /-- Never written, and passed over when read. -/
  | ignored
  deriving DecidableEq, Repr

/-- The form of the primary value, and the name that failures give it. -/
inductive Special where
  /-- A key or an id. -/
  | key (name : String)
  /-- A text in UTF-8. -/
  | text (name : String)
  deriving DecidableEq, Repr

/-- The name of the primary value. -/
def Special.name : Special → String
  | .key name => name
  | .text name => name

/-- The form of the primary value, and which other components are carried. -/
structure Layout where
  special : Special
  relay : Presence
  author : Presence
  kind : Presence
  deriving DecidableEq, Repr

/-- The components of an entity, whatever its kind. -/
structure Payload where
  special : List UInt8
  relays : List String := []
  author : Option PublicKey := none
  kind : Option UInt32 := none
  deriving DecidableEq

/-- Relays that an entity may carry. -/
def maximumRelays : Nat := 10

/-- Read a field of 32 bytes. -/
def readBytes32 (field : String) (value : List UInt8) : Except Error Bytes32 :=
  match Bytes32.ofBytes? value with
  | some bytes => .ok bytes
  | none => .error (.malformedField field (.wrongLength 32 value.length))

/-- Read a field that is a text. -/
def readText (field : String) (value : List UInt8) : Except Error String :=
  match Text.ofUtf8? value with
  | some text => .ok text
  | none => .error (.malformedField field .notText)

/-- Read a field that is an event kind. -/
def readEventKind (field : String) (value : List UInt8) : Except Error UInt32 :=
  match EventKind.ofBytes? value with
  | some kind => .ok kind
  | none => .error (.malformedField field (.wrongLength 4 value.length))

/-- Read fields of one name that are texts. -/
def readTexts (field : String) : List (List UInt8) → Except Error (List String)
  | [] => .ok []
  | value :: rest => do
      let text ← readText field value
      let texts ← readTexts field rest
      return text :: texts

namespace Payload

/-- The primary value as a text. -/
def specialText (payload : Payload) (field : String) : Except Error String :=
  readText field payload.special

/-- The primary value as a key or an id. -/
def specialKey (payload : Payload) (field : String) : Except Error Bytes32 :=
  readBytes32 field payload.special

/-- The author, which has to be there. -/
def requiredAuthor (payload : Payload) : Except Error PublicKey :=
  match payload.author with
  | some author => .ok author
  | none => .error (.missingField "author")

/-- The event kind, which has to be there. -/
def requiredKind (payload : Payload) : Except Error UInt32 :=
  match payload.kind with
  | some kind => .ok kind
  | none => .error (.missingField "kind")

end Payload

/-- Refuse a primary value that is to be written as a key and is none. A text is
written as it is. -/
def Special.requireWritable (special : Special) (value : List UInt8) :
    Except Error Unit :=
  match special with
  | .key name => (readBytes32 name value).map fun _ => ()
  | .text _ => .ok ()

/-- Refuse a primary value that does not have its form. -/
def Special.requireReadable (special : Special) (value : List UInt8) :
    Except Error Unit :=
  match special with
  | .key name => (readBytes32 name value).map fun _ => ()
  | .text name => (readText name value).map fun _ => ()

/-- Refuse the absence of a required component. -/
def Presence.requireIfNeeded (presence : Presence) (field : String)
    (isPresent : Bool) : Except Error Unit :=
  if presence = .required ∧ !isPresent then .error (.missingField field)
  else .ok ()

/-- Refuse more relays than an entity may carry. -/
def Presence.requireFew (presence : Presence) (count : Nat) : Except Error Unit :=
  if presence = .repeated ∧ maximumRelays < count then
    .error (.tooManyRelays count)
  else .ok ()

/-- The records of a component, unless the layout ignores it. -/
def Presence.records (presence : Presence) (tag : Tag)
    (values : List (List UInt8)) : List Record :=
  if presence = .ignored then [] else values.map fun value => ⟨tag, value⟩

namespace Layout

/-- The records that write a payload. -/
def records (layout : Layout) (payload : Payload) : List Record :=
  ⟨.special, payload.special⟩ ::
    (layout.relay.records .relay (payload.relays.map Text.utf8Bytes) ++
      layout.author.records .author
        (payload.author.toList.map fun author => author.bytes) ++
      layout.kind.records .kind (payload.kind.toList.map EventKind.toBytes))

/-- Write a payload after checking it against the layout. -/
def encode (layout : Layout) (payload : Payload) :
    Except Error (List UInt8) := do
  layout.special.requireWritable payload.special
  layout.author.requireIfNeeded "author" payload.author.isSome
  layout.kind.requireIfNeeded "kind" payload.kind.isSome
  layout.relay.requireFew payload.relays.length
  (Record.writeAll (layout.records payload)).mapError .record

/-- The primary value: the first special record. -/
def readSpecial (layout : Layout) (records : List Record) :
    Except Error (List UInt8) :=
  match Record.first? records .special with
  | none => .error (.missingField layout.special.name)
  | some record => do
      layout.special.requireReadable record.value
      return record.value

/-- The values of the relay records, unless the layout ignores them. -/
def relayValues (layout : Layout) (records : List Record) : List (List UInt8) :=
  if layout.relay = .ignored then []
  else (Record.withTag records .relay).map Record.value

/-- The relays. Those beyond the limit are dropped, with a notice. -/
def readRelays (layout : Layout) (records : List Record) :
    Traced Error (List String) := do
  let values := layout.relayValues records
  let relays ← .ofExcept (readTexts "relay" (values.take maximumRelays))
  let dropped := values.length - maximumRelays
  Traced.notifyIf (0 < dropped) (.relaysDropped maximumRelays dropped)
  return relays

/-- A component that occurs at most once: the first record of its tag, read by
`read`. -/
def readSingle {α : Type} (presence : Presence) (tag : Tag) (field : String)
    (read : List UInt8 → Except Error α) (records : List Record) :
    Except Error (Option α) :=
  if presence = .ignored then .ok none
  else
    match Record.first? records tag with
    | some record => (read record.value).map some
    | none =>
        if presence = .required then .error (.missingField field) else .ok none

/-- The author. -/
def readAuthor (layout : Layout) (records : List Record) :
    Except Error (Option PublicKey) :=
  readSingle layout.author .author "author"
    (fun value => (readBytes32 "author" value).map PublicKey.mk) records

/-- The event kind. -/
def readKind (layout : Layout) (records : List Record) :
    Except Error (Option UInt32) :=
  readSingle layout.kind .kind "kind" (readEventKind "kind") records

/-- Take the components that the layout asks for out of records. -/
def ofRecords (layout : Layout) (records : List Record) :
    Traced Error Payload := do
  let special ← .ofExcept (layout.readSpecial records)
  let relays ← layout.readRelays records
  let author ← .ofExcept (layout.readAuthor records)
  let kind ← .ofExcept (layout.readKind records)
  return { special, relays, author, kind }

/-- Read the components that the layout asks for. -/
def decode (layout : Layout) (buffer : List UInt8) : Traced Error Payload := do
  let records ← (Record.readAll buffer).mapError .record
  layout.ofRecords records

end Layout

end NostrEntities.Entity

namespace NostrEntities.TaggedKind

/-- The layout of the records of a kind. -/
def layout : TaggedKind → Entity.Layout
  | .nprofile => {
      special := .key "pubkey"
      relay := .repeated
      author := .ignored
      kind := .ignored }
  | .nevent => {
      special := .key "id"
      relay := .repeated
      author := .optional
      kind := .optional }
  | .naddr => {
      special := .text "identifier"
      relay := .repeated
      author := .required
      kind := .required }
  | .nrelay => {
      special := .text "relay"
      relay := .ignored
      author := .ignored
      kind := .ignored }

end NostrEntities.TaggedKind
