import NostrEntities.Diagnostic
import NostrEntities.Text.Utf8

/-!
# Hexadecimal

Two digits write one byte, the high half first. Writing uses lower case only;
reading takes either case, works on the bytes of the text, and reports the first
byte that is no digit.
-/

namespace NostrEntities.Hex

/-- Why a text is not the hexadecimal form of the expected bytes. -/
inductive Error where
  | invalidCharacter (character : Char) (index : Nat)
  | oddLength
  | invalidLength (expected found : Nat)
  deriving DecidableEq, Repr

namespace Error

/-- The message for a person. -/
def message : Error → String
  | .invalidCharacter character index =>
      s!"Invalid character {character} at position {index}"
  | .oddLength => "Odd number of digits"
  | .invalidLength expected found =>
      s!"Expected {expected} bytes, found {found}"

/-- The structured account, under the names that a full report uses. -/
def diagnostic : Error → Diagnostic
  | .invalidCharacter character index =>
      .cause "InvalidHexCharacter"
        (.named [("c", .character character), ("index", .number index)])
  | .oddLength => .plain "OddLength"
  | .invalidLength expected found =>
      .cause "InvalidLength"
        (.named [("expected", .number expected), ("found", .number found)])

end Error

/-- The two digits of a byte. -/
def digits (byte : UInt8) : List Char :=
  [Nat.digitChar (byte.toNat / 16), Nat.digitChar (byte.toNat % 16)]

/-- The lower case form of a byte string. -/
def encode (bytes : List UInt8) : String :=
  String.ofList (bytes.flatMap digits)

/-- The value of a digit, given by its byte. -/
def digitValue? (code : UInt8) : Option UInt8 :=
  if 48 ≤ code ∧ code ≤ 57 then some (code - 48)
  else if 97 ≤ code ∧ code ≤ 102 then some (code - 87)
  else if 65 ≤ code ∧ code ≤ 70 then some (code - 55)
  else none

/-- The value of the digit at a position. A byte that is no digit is reported as
the character with that number. -/
def readDigit (index : Nat) (code : UInt8) : Except Error UInt8 :=
  match digitValue? code with
  | some value => .ok value
  | none => .error (.invalidCharacter (Char.ofNat code.toNat) index)

/-- Read digits two at a time; `index` is the position of the first one. -/
def readPairs : (index : Nat) → (codes : List UInt8) → Except Error (List UInt8)
  | _, [] => .ok []
  | _, [_] => .error .oddLength
  | index, high :: low :: rest => do
      let highValue ← readDigit index high
      let lowValue ← readDigit (index + 1) low
      let bytes ← readPairs (index + 2) rest
      return (highValue * 16 + lowValue) :: bytes

/-- Read the bytes of a hexadecimal text. Its length is looked at before its
digits. -/
def decode (codes : List UInt8) : Except Error (List UInt8) :=
  if codes.length % 2 ≠ 0 then .error .oddLength
  else readPairs 0 codes

/-- Read a hexadecimal text of a known number of bytes. -/
def decodeExactly (count : Nat) (codes : List UInt8) :
    Except Error (List UInt8) := do
  let bytes ← decode codes
  if bytes.length = count then return bytes
  else throw (.invalidLength count bytes.length)

@[simp] theorem length_digits (byte : UInt8) : (digits byte).length = 2 := rfl

/-- A successful reading of a known length has that length. -/
theorem length_of_decodeExactly {count : Nat} {codes bytes : List UInt8}
    (read : decodeExactly count codes = .ok bytes) : bytes.length = count := by
  unfold decodeExactly at read
  cases found : decode codes with
  | error cause => simp [found, bind, Except.bind] at read
  | ok contents =>
      simp only [found, bind, Except.bind] at read
      split at read
      · rename_i same
        cases read
        exact same
      · simp [throw, throwThe, MonadExceptOf.throw] at read

end NostrEntities.Hex
