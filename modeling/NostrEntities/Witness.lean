import NostrEntities.Bech32.Codec
import NostrEntities.Bech32.Regroup

/-!
# Witness programs and bare programs

A short byte string, the program, is carried in a checksummed text of at most 90
bytes. In the versioned framing the first word is a version number, and the
version decides the checksum variant. In the bare framing there is no version
word, and everything is as for version 0.
-/

namespace NostrEntities.Witness

/-- Whether the first word of the data is a version number. -/
inductive Framing where
  | versioned
  | bare
  deriving DecidableEq, Repr

/-- Why a program is not written, or a text holds no program. -/
inductive Error where
  | bech32 (error : Bech32.Error)
  | invalidVersion (version : UInt8)
  | invalidProgramLength (length : Nat)
  | invalidDataLength (length : Nat)
  | hrpMismatch (expected found : String)
  | variantMismatch
  deriving DecidableEq, Repr

namespace Error

/-- The message for a person. -/
def message : Error → String
  | .bech32 error => error.message
  | .invalidVersion version => s!"Invalid witness version: {version}"
  | .invalidProgramLength length => s!"Invalid program length: {length}"
  | .invalidDataLength length => s!"Invalid data length: {length}"
  | .hrpMismatch expected found =>
      s!"Human-readable part mismatch: expected {expected}, found {found}"
  | .variantMismatch => "Checksum variant does not match witness version"

/-- The structured account, under the names that a full report uses. -/
def diagnostic : Error → Diagnostic
  | .bech32 error => .within "Bech32" error.diagnostic
  | .invalidVersion version =>
      .cause "InvalidVersion" (.single (.number version.toNat))
  | .invalidProgramLength length =>
      .cause "InvalidProgramLength" (.single (.number length))
  | .invalidDataLength length =>
      .cause "InvalidDataLength" (.single (.number length))
  | .hrpMismatch expected found =>
      .cause "HrpMismatch"
        (.named [("expected", .text expected), ("found", .text found)])
  | .variantMismatch => .plain "EncodingKindMismatch"

end Error

/-- A program and the version it belongs to. -/
structure Program where
  version : UInt8
  bytes : List UInt8
  deriving DecidableEq, Repr

/-- Bytes of the longest text. -/
def maximumLength : Nat := 90

/-- The highest version number. -/
def maximumVersion : UInt8 := 16

/-- Words of the longest data part, checksum left out. -/
def maximumDataLength : Nat := 65

/-- The checksum variant of a version. -/
def variantOf (version : UInt8) : Bech32.Variant :=
  if version = 0 then .bech32 else .bech32m

/-- Whether a program of a version may have the given length. -/
def isProgramLength (version : UInt8) (length : Nat) : Bool :=
  2 ≤ length && length ≤ 40 && (version != 0 || length == 20 || length == 32)

/-- Refuse a version above the highest one. -/
def requireVersion (version : UInt8) : Except Error Unit :=
  if maximumVersion < version then .error (.invalidVersion version) else .ok ()

/-- Refuse a length that no program of the version has. -/
def requireProgramLength (version : UInt8) (length : Nat) : Except Error Unit :=
  if isProgramLength version length then .ok ()
  else .error (.invalidProgramLength length)

/-- Refuse data without a word, or with more words than a text has room for. -/
def requireDataLength (length : Nat) : Except Error Unit :=
  if length = 0 ∨ maximumDataLength < length then
    .error (.invalidDataLength length)
  else .ok ()

/-- Refuse a checksum that is not the one of the version. -/
def requireVariant (version : UInt8) (variant : Bech32.Variant) :
    Except Error Unit :=
  if variant = variantOf version then .ok () else .error .variantMismatch

/-- Refuse a human-readable part other than the expected one, in either case. -/
def requireHrp (expected found : String) : Except Error Unit :=
  if Text.equalIgnoringCase found expected then .ok ()
  else .error (.hrpMismatch expected found)

/-- The version that counts: a bare program is one of version 0. -/
def Framing.version (framing : Framing) (version : UInt8) : UInt8 :=
  match framing with
  | .versioned => version
  | .bare => 0

/-- The words in front of the program. -/
def Framing.header (framing : Framing) (version : UInt8) : List UInt8 :=
  match framing with
  | .versioned => [version]
  | .bare => []

/-- Write a program under a human-readable part. -/
def encode (framing : Framing) (hrp : String) (program : Program) :
    Except Error String := do
  let version := framing.version program.version
  requireVersion version
  requireProgramLength version program.bytes.length
  let words ← (Bech32.wordsOfBytes program.bytes).mapError .bech32
  (Bech32.encode maximumLength {
    hrp
    words := framing.header version ++ words
    variant := variantOf version }).mapError .bech32

/-- The version of some data and the words of its program. Data has at least one
word. -/
def Framing.split (framing : Framing) (words : List UInt8) :
    UInt8 × List UInt8 :=
  match framing, words with
  | .versioned, version :: rest => (version, rest)
  | .versioned, [] => (0, [])
  | .bare, words => (0, words)

/-- Read the words of a program of a version. -/
def readProgram (variant : Bech32.Variant) (version : UInt8)
    (words : List UInt8) : Except Error Program := do
  requireVersion version
  requireVariant version variant
  let bytes ← (Bech32.bytesOfWords words).mapError .bech32
  requireProgramLength version bytes.length
  return { version, bytes }

/-- Read a text that must carry the given human-readable part, in either
case. -/
def decode (framing : Framing) (hrp address : String) :
    Except Error Program := do
  let parts ← (Bech32.decode maximumLength address).mapError .bech32
  requireHrp hrp parts.hrp
  requireDataLength parts.words.length
  let (version, words) := framing.split parts.words
  readProgram parts.variant version words

end NostrEntities.Witness
