import NostrEntities.Diagnostic

/-!
# Failures of the checksummed text format

The causes for which a text is no checksummed text, a list of words cannot be
written as one, or a byte string cannot be regrouped.
-/

namespace NostrEntities.Bech32

/-- Why a text is not read, a list of words not written, or a byte string not
regrouped. -/
inductive Error where
  | invalidCharacter (character : Char)
  | mixedCase
  | invalidChecksum
  | lengthExceeded (length limit : Nat)
  | nonCanonicalPadding
  | invalidWord (value : UInt8)
  | missingSeparator
  | tooShort (length : Nat)
  | emptyHrp
  | invalidWidth (source target : Nat)
  deriving DecidableEq, Repr

namespace Error

/-- The message for a person. -/
def message : Error → String
  | .invalidCharacter character =>
      "Invalid character: " ++ Text.quotedCharacter character
  | .mixedCase => "Mixed-case string"
  | .invalidChecksum => "Invalid checksum"
  | .lengthExceeded length limit =>
      s!"Length {length} exceeds maximum of {limit}"
  | .nonCanonicalPadding => "Non-canonical padding"
  | .invalidWord value => s!"Invalid word: {value}"
  | .missingSeparator => "Missing separator"
  | .tooShort length => s!"Input too short ({length} chars)"
  | .emptyHrp => "Empty human-readable part"
  | .invalidWidth source target => s!"Invalid bit widths: {source} to {target}"

/-- The structured account, under the names that a full report uses. -/
def diagnostic : Error → Diagnostic
  | .invalidCharacter character =>
      .cause "InvalidCharacter" (.single (.character character))
  | .mixedCase => .plain "MixedCase"
  | .invalidChecksum => .plain "InvalidChecksum"
  | .lengthExceeded length limit =>
      .cause "LengthExceeded"
        (.named [("len", .number length), ("max", .number limit)])
  | .nonCanonicalPadding => .plain "NonCanonicalPadding"
  | .invalidWord value => .cause "InvalidWord" (.single (.number value.toNat))
  | .missingSeparator => .plain "MissingSeparator"
  | .tooShort length => .cause "TooShort" (.single (.number length))
  | .emptyHrp => .plain "EmptyHrp"
  | .invalidWidth source target =>
      .cause "InvalidWidth"
        (.named [("from", .number source), ("to", .number target)])

end Error

end NostrEntities.Bech32
