import NostrEntities.Hex

/-!
# Keys and ids

Event ids, public keys and secret keys are all 32 bytes, and are exchanged as 64
hexadecimal digits. They are different types all the same: an id must never be
taken for a key, and a secret key must never be printed.
-/

namespace NostrEntities

/-- Exactly 32 bytes. -/
structure Bytes32 where
  bytes : List UInt8
  length_bytes : bytes.length = 32
  deriving DecidableEq

namespace Bytes32

/-- Why something is not 32 bytes. -/
inductive Error where
  | hex (error : Hex.Error)
  | invalidLength (expected found : Nat)
  deriving DecidableEq, Repr

namespace Error

/-- The message for a person. -/
def message : Error → String
  | .hex error => error.message
  | .invalidLength expected found =>
      s!"Expected {expected} bytes, found {found}"

/-- The structured account, under the names that a full report uses. -/
def diagnostic : Error → Diagnostic
  | .hex error => .within "Hex" error.diagnostic
  | .invalidLength expected found =>
      .cause "InvalidLength"
        (.named [("expected", .number expected), ("found", .number found)])

end Error

/-- A byte string of the right length. -/
def ofBytes? (bytes : List UInt8) : Option Bytes32 :=
  if length_bytes : bytes.length = 32 then some ⟨bytes, length_bytes⟩ else none

/-- A byte string of the right length, or the length it has instead. -/
def ofBytes (bytes : List UInt8) : Except Error Bytes32 :=
  match ofBytes? bytes with
  | some value => .ok value
  | none => .error (.invalidLength 32 bytes.length)

/-- Read 64 hexadecimal digits, in either case. -/
def ofHex (text : String) : Except Error Bytes32 :=
  match read : Hex.decodeExactly 32 (Text.utf8Bytes text) with
  | .ok bytes => .ok ⟨bytes, Hex.length_of_decodeExactly read⟩
  | .error cause => .error (.hex cause)

/-- The 64 digits, in lower case. -/
def toHex (value : Bytes32) : String :=
  Hex.encode value.bytes

/-- All bytes zero. -/
def zero : Bytes32 :=
  ⟨List.replicate 32 0, rfl⟩

/-- The number that the bytes write, the highest byte first. -/
def toNat (value : Bytes32) : Nat :=
  value.bytes.foldl (fun number byte => number * 256 + byte.toNat) 0

/-- The order of the bytes, first difference first. -/
def le (first second : Bytes32) : Bool :=
  !decide (second.bytes < first.bytes)

@[ext] theorem ext {first second : Bytes32}
    (same : first.bytes = second.bytes) : first = second := by
  cases first
  cases second
  simpa using same

@[simp] theorem ofBytes?_bytes (value : Bytes32) :
    ofBytes? value.bytes = some value := by
  simp [ofBytes?, value.length_bytes]

theorem ofBytes?_eq_some_iff {bytes : List UInt8} {value : Bytes32} :
    ofBytes? bytes = some value ↔ bytes = value.bytes := by
  constructor
  · intro read
    unfold ofBytes? at read
    split at read
    · cases read; rfl
    · cases read
  · rintro rfl
    exact ofBytes?_bytes value

theorem ofBytes?_eq_none_iff {bytes : List UInt8} :
    ofBytes? bytes = none ↔ bytes.length ≠ 32 := by
  simp [ofBytes?]

end Bytes32

/-- The id of an event. -/
structure EventId extends Bytes32
  deriving DecidableEq

/-- A public key, as the x coordinate of its point. -/
structure PublicKey extends Bytes32
  deriving DecidableEq

/-- A secret key. -/
structure SecretKey extends Bytes32
  deriving DecidableEq

namespace SecretKey

/-- What is shown in place of a secret key. -/
def redacted (_key : SecretKey) : String := "<sensitive>"

/-- What is left of a secret key after it has been wiped. -/
def wiped (_key : SecretKey) : SecretKey := ⟨.zero⟩

end SecretKey

namespace PublicKey

/-- The keys in the order of their bytes. -/
def sort (keys : List PublicKey) : List PublicKey :=
  keys.mergeSort fun first second => first.toBytes32.le second.toBytes32

end PublicKey

end NostrEntities
