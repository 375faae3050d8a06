import NostrEntities.Entity.Codec
import NostrEntities.Proofs.Guarded.Bech32
import NostrEntities.Proofs.Guarded.Record
import NostrEntities.Proofs.Guarded.Regroup
import NostrEntities.Proofs.Witness.RoundTrip

/-!
# Reading programs and entities on a machine

The readers above the checksummed text take words and records apart with steps that are
guarded themselves. Besides these, only the version word of a program is taken by its
position.
-/

namespace NostrEntities

open Guarded

/-! ## Payloads -/

/-- The byte string that words carry. -/
def Bech32.guardedBytesOfWords (words : List UInt8) :
    Guarded Bech32.Error (List UInt8) :=
  guardedRegroupBits 5 8 false words

theorem Bech32.guardedBytesOfWords_eq (words : List UInt8) :
    guardedBytesOfWords words = Guarded.ofExcept (bytesOfWords words) :=
  guardedRegroupBits_eq 5 8 false words

/-! ## Programs -/

namespace Witness

/-- The version of some data and the words of its program. -/
def Framing.guardedSplit (framing : Framing) (words : List UInt8) :
    Guarded Error (UInt8 × List UInt8) :=
  match framing with
  | .versioned => do
      let version ← element words 0
      let rest ← pieceFrom words 1
      return (version, rest)
  | .bare => return (0, words)

/-- Read the words of a program of a version. -/
def guardedReadProgram (variant : Bech32.Variant) (version : UInt8)
    (words : List UInt8) : Guarded Error Program := do
  Guarded.ofExcept (requireVersion version)
  Guarded.ofExcept (requireVariant version variant)
  let bytes ← (Bech32.guardedBytesOfWords words).mapError .bech32
  Guarded.ofExcept (requireProgramLength version bytes.length)
  return { version, bytes }

/-- Read a text that must carry the given human-readable part, in either case. -/
def guardedDecode (framing : Framing) (hrp address : String) :
    Guarded Error Program := do
  let parts ← (Bech32.guardedDecode maximumLength address).mapError .bech32
  Guarded.ofExcept (requireHrp hrp parts.hrp)
  Guarded.ofExcept (requireDataLength parts.words.length)
  let (version, words) ← framing.guardedSplit parts.words
  guardedReadProgram parts.variant version words

theorem Framing.guardedSplit_eq_pure (framing : Framing) {words : List UInt8}
    (nonempty : words ≠ []) :
    framing.guardedSplit words = pure (framing.split words) := by
  cases framing with
  | bare => rfl
  | versioned =>
      cases words with
      | nil => exact absurd rfl nonempty
      | cons version rest =>
          have found : (version :: rest)[0]? = some version := rfl
          have within : 1 ≤ (version :: rest).length := Nat.le_add_left 1 rest.length
          rw [guardedSplit, element_eq_pure found, Guarded.pure_bind,
            pieceFrom_eq_pure within, Guarded.pure_bind]
          rfl

theorem guardedReadProgram_eq (variant : Bech32.Variant) (version : UInt8)
    (words : List UInt8) :
    guardedReadProgram variant version words =
      Guarded.ofExcept (readProgram variant version words) := by
  rw [guardedReadProgram, Bech32.guardedBytesOfWords_eq, mapError_ofExcept]
  refine bind_eq_ofExcept rfl fun _ _ => ?_
  refine bind_eq_ofExcept rfl fun _ _ => ?_
  refine bind_eq_ofExcept rfl fun bytes _ => ?_
  exact bind_eq_ofExcept rfl fun _ _ => rfl

/-- A machine reads every program without any fault: the version word is only looked at
when there is a word. -/
theorem guardedDecode_eq (framing : Framing) (hrp address : String) :
    guardedDecode framing hrp address =
      Guarded.ofExcept (decode framing hrp address) := by
  rw [guardedDecode, Bech32.guardedDecode_eq, mapError_ofExcept]
  refine bind_eq_ofExcept rfl fun parts _ => ?_
  refine bind_eq_ofExcept rfl fun _ _ => ?_
  refine bind_eq_ofExcept rfl fun _ long => ?_
  rw [framing.guardedSplit_eq_pure (ne_nil_of_requireDataLength long),
    Guarded.pure_bind]
  exact guardedReadProgram_eq parts.variant _ _

end Witness

/-! ## Entities -/

namespace Entity

/-- Read the components that the layout asks for. -/
def Layout.guardedDecode (layout : Layout) (buffer : List UInt8) :
    Guarded Error Payload := do
  let records ← (Record.guardedReadAll buffer).mapError .record
  ofTraced (layout.ofRecords records)

/-- The payload of a text and the kind that its human-readable part names. -/
def guardedReadPayload (text : String) : Guarded Error (Kind × List UInt8) := do
  let parts ← (Bech32.guardedDecode maximumLength text).mapError .bech32
  Guarded.ofExcept (requireFirstVariant parts.variant)
  let bytes ← (Bech32.guardedBytesOfWords parts.words).mapError .bech32
  let kind ← Guarded.ofExcept (kindOfHrp parts.hrp)
  return (kind, bytes)

/-- Take an entity out of the payload of a text. -/
def guardedOfKindAndPayload (kind : Kind) (bytes : List UInt8) :
    Guarded Error Entity :=
  match kind with
  | .bare kind => Guarded.ofExcept (ofBareBytes kind bytes)
  | .tagged kind => do
      let payload ← kind.layout.guardedDecode bytes
      Guarded.ofExcept (ofPayload kind payload)

/-- Read an entity of any kind. -/
def guardedDecode (text : String) : Guarded Error Entity := do
  let (kind, bytes) ← guardedReadPayload text
  Guarded.ofExcept (requireShort kind text.utf8ByteSize)
  ofTraced (Traced.notify (.decoding kind bytes.length))
  guardedOfKindAndPayload kind bytes

theorem Layout.guardedDecode_eq (layout : Layout) (buffer : List UInt8) :
    layout.guardedDecode buffer = ofTraced (layout.decode buffer) := by
  rw [Layout.guardedDecode, Record.guardedReadAll_eq, mapError_ofTraced]
  exact bind_eq_ofTraced rfl fun _ _ => rfl

theorem guardedReadPayload_eq (text : String) :
    guardedReadPayload text = Guarded.ofExcept (readPayload text) := by
  rw [guardedReadPayload, Bech32.guardedDecode_eq, mapError_ofExcept]
  refine bind_eq_ofExcept rfl fun parts _ => ?_
  refine bind_eq_ofExcept rfl fun _ _ => ?_
  rw [Bech32.guardedBytesOfWords_eq, mapError_ofExcept]
  refine bind_eq_ofExcept rfl fun bytes _ => ?_
  exact bind_eq_ofExcept rfl fun _ _ => rfl

theorem guardedOfKindAndPayload_eq (kind : Kind) (bytes : List UInt8) :
    guardedOfKindAndPayload kind bytes = ofTraced (ofKindAndPayload kind bytes) := by
  cases kind with
  | bare kind => rfl
  | tagged kind =>
      rw [guardedOfKindAndPayload, Layout.guardedDecode_eq]
      exact bind_eq_ofTraced rfl fun _ _ => rfl

/-- A machine reads every entity without any fault, and leaves the same notices. -/
theorem guardedDecode_eq (text : String) :
    guardedDecode text = ofTraced (decode text) := by
  rw [guardedDecode, guardedReadPayload_eq]
  refine bind_eq_ofTraced rfl fun parts _ => ?_
  refine bind_eq_ofTraced rfl fun _ _ => ?_
  refine bind_eq_ofTraced rfl fun _ _ => ?_
  exact guardedOfKindAndPayload_eq parts.1 parts.2

end Entity

/-! ## All readers -/

/-- No reader ever stops in a fault, whatever it is given: every guard in front of an
element, a piece, a difference, a sum or a shift is passed, no shift loses a bit, and no
loop runs out of rounds. What a machine reads is what the plain readers read. Every round
over a buffer of records takes at least two of its bytes. -/
theorem guarded_readers_eq_and_records_advance :
    (∀ limit text, Bech32.guardedDecode limit text =
      Guarded.ofExcept (Bech32.decode limit text)) ∧
    (∀ source target padded values,
      Bech32.guardedRegroupBits source target padded values =
        Guarded.ofExcept (Bech32.regroupBits source target padded values)) ∧
    (∀ framing hrp address, Witness.guardedDecode framing hrp address =
      Guarded.ofExcept (Witness.decode framing hrp address)) ∧
    (∀ buffer, Record.guardedReadAll buffer = ofTraced (Record.readAll buffer)) ∧
    (∀ layout buffer, Entity.Layout.guardedDecode layout buffer =
      ofTraced (layout.decode buffer)) ∧
    (∀ text, Entity.guardedDecode text = ofTraced (Entity.decode text)) ∧
    ∀ buffer cursor next, Record.guardedReadNext buffer cursor = pure next →
      cursor.offset + 2 ≤ next.offset ∧ next.offset ≤ buffer.length := by
  refine ⟨Bech32.guardedDecode_eq, Bech32.guardedRegroupBits_eq,
    Witness.guardedDecode_eq, Record.guardedReadAll_eq,
    Entity.Layout.guardedDecode_eq, Entity.guardedDecode_eq, ?_⟩
  intro buffer cursor next read
  exact Record.advances_of_guardedReadNext read

/-- A record with one byte takes three bytes of the buffer. -/
theorem guardedReadNext_single_byte_advances :
    Record.guardedReadNext [1, 1, 7] ⟨0, []⟩ = pure ⟨3, [⟨.relay, [7]⟩]⟩ ∧
      0 + 2 ≤ 3 ∧ 3 ≤ [1, 1, 7].length :=
  ⟨rfl, guarded_readers_eq_and_records_advance.2.2.2.2.2.2
    [1, 1, 7] ⟨0, []⟩ ⟨3, [⟨.relay, [7]⟩]⟩ rfl⟩

end NostrEntities
