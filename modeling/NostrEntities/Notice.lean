import NostrEntities.Kind

/-!
# Notices

What a reader of the log is told while an entity is read. Notices carry sizes and
counts only, never a byte of what is read, so a secret key cannot reach the log.
-/

namespace NostrEntities

/-- How much a notice matters. -/
inductive Level where
  | debug
  | trace
  deriving DecidableEq, Repr

/-- The name of a level in the log. -/
def Level.name : Level → String
  | .debug => "DEBUG"
  | .trace => "TRACE"

/-- Something that a reader of the log is told. -/
inductive Notice where
  /-- An entity is about to be taken out of its payload. -/
  | decoding (kind : Kind) (payloadLength : Nat)
  /-- Bytes after the last record that may be read were left out. -/
  | bytesIgnored (recordLimit count : Nat)
  /-- Relays after the last one that is kept were left out. -/
  | relaysDropped (relayLimit count : Nat)
  deriving DecidableEq, Repr

namespace Notice

/-- Whatever is left out matters more than progress. -/
def level : Notice → Level
  | .decoding _ _ => .trace
  | .bytesIgnored _ _ => .debug
  | .relaysDropped _ _ => .debug

/-- The message for a person. -/
def message : Notice → String
  | .decoding kind payloadLength =>
      s!"Decoding {kind.hrp} with {payloadLength} bytes of payload"
  | .bytesIgnored recordLimit count =>
      s!"TLV limit of {recordLimit} records reached, ignoring {count} trailing bytes"
  | .relaysDropped relayLimit count =>
      s!"Keeping {relayLimit} relay hints, dropped {count}"

theorem message_bytesIgnored (recordLimit count : Nat) :
    (bytesIgnored recordLimit count).message =
      s!"TLV limit of {recordLimit} records reached, ignoring {count} trailing bytes" :=
  rfl

theorem message_relaysDropped (relayLimit count : Nat) :
    (relaysDropped relayLimit count).message =
      s!"Keeping {relayLimit} relay hints, dropped {count}" :=
  rfl

/-- The line in the log. -/
def line (notice : Notice) : String :=
  notice.level.name ++ " " ++ notice.message

end Notice

end NostrEntities
