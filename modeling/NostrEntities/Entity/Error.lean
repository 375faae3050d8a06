import NostrEntities.Record
import NostrEntities.Witness

/-!
# Failures of the text forms of entities

Failures of the layers below are passed on as they are. The causes of this layer
are about kinds and about the fields that an entity needs.
-/

namespace NostrEntities.Entity

/-- What is wrong with the bytes of a field. -/
inductive Malformation where
  | wrongLength (expected found : Nat)
  | notText
  deriving DecidableEq, Repr

/-- The message for a person. -/
def Malformation.message : Malformation → String
  | .wrongLength expected found => s!"expected {expected} bytes, found {found}"
  | .notText => "invalid utf-8"

/-- Why an entity has no text, or a text is not one of an entity. -/
inductive Error where
  | bech32 (error : Bech32.Error)
  | witness (error : Witness.Error)
  | record (error : Record.Error)
  | wrongVariant
  | unrecognizedHrp (hrp : String)
  | missingField (field : String)
  | malformedField (field : String) (malformation : Malformation)
  | tooManyRelays (count : Nat)
  | unexpectedKind (expected found : Kind)
  deriving DecidableEq, Repr

/-- The name of a kind, with a capital letter, as failures show it. -/
def kindName (kind : Kind) : String :=
  match kind.hrp.toList with
  | [] => ""
  | first :: rest => String.ofList (first.toUpper :: rest)

namespace Error

/-- The message for a person. -/
def message : Error → String
  | .bech32 error => error.message
  | .witness error => error.message
  | .record error => error.message
  | .wrongVariant => "Identifiers must use the bech32 checksum, not bech32m"
  | .unrecognizedHrp hrp => s!"Unrecognized prefix: {hrp}"
  | .missingField field => s!"Missing field: {field}"
  | .malformedField field malformation =>
      s!"Malformed {field}: {malformation.message}"
  | .tooManyRelays count => s!"Too many relays: {count}"
  | .unexpectedKind expected found =>
      s!"Expected {expected.hrp}, found {found.hrp}"

/-- The structured account, under the names that a full report uses. -/
def diagnostic : Error → Diagnostic
  | .bech32 error => .within "Bech32" error.diagnostic
  | .witness error => .within "Segwit" error.diagnostic
  | .record error => .within "Tlv" error.diagnostic
  | .wrongVariant => .plain "WrongChecksumVariant"
  | .unrecognizedHrp hrp => .cause "UnrecognizedPrefix" (.single (.text hrp))
  | .missingField field => .cause "MissingField" (.single (.text field))
  | .malformedField field malformation =>
      .cause "MalformedField"
        (.named [("field", .text field), ("reason", .text malformation.message)])
  | .tooManyRelays count => .cause "TooManyRelays" (.single (.number count))
  | .unexpectedKind expected found =>
      .cause "UnexpectedKind"
        (.named [("expected", .word (kindName expected)),
          ("found", .word (kindName found))])

end Error

/-- The kind that a human-readable part names. -/
def kindOfHrp (hrp : String) : Except Error Kind :=
  match Kind.ofHrp? hrp with
  | some kind => .ok kind
  | none => .error (.unrecognizedHrp hrp)

end NostrEntities.Entity
