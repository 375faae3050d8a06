import NostrEntities.Proofs.Entity.Grammar
import NostrEntities.Proofs.Witness.RoundTrip

/-!
# Entities and back

Every entity that is written is read back. Every text that is read has a canonical
form, the one that is written for its entity: it is no longer than the text, however
the records of the text were arranged, and it reads as the same entity.
-/

namespace NostrEntities.Entity

/-- A program without a version in front is written like any payload. The tighter
limit on its length holds of 32 bytes anyway. -/
theorem encode_bareProgram_eq_ok_iff {kind : BareKind} {bytes : Bytes32}
    {text : String} :
    Witness.encode .bare kind.hrp { version := 0, bytes := bytes.bytes } =
        .ok text ↔
      Spells text (.bare kind) bytes.bytes := by
  have length : ∀ {words}, Bech32.wordsOfBytes bytes.bytes = .ok words →
      kind.hrp.utf8ByteSize + 7 + words.length = 63 := by
    intro words regrouped
    rw [utf8ByteSize_bareHrp, Bech32.length_of_wordsOfBytes regrouped,
      bytes.length_bytes]
  rw [Witness.encode_eq_ok_iff]
  constructor
  · rintro ⟨words, carries, written⟩
    rcases carries.body with ⟨_, regrouped, rfl⟩
    refine ⟨words, regrouped, Bech32.encode_of_encode written ?_⟩
    exact Nat.le_trans (Nat.le_of_eq (length regrouped)) (by decide)
  · intro spells
    rcases spells with ⟨words, regrouped, written⟩
    have known : (0 : UInt8) ≤ Witness.maximumVersion := by decide
    have allowed : Witness.isProgramLength 0 bytes.bytes.length = true := by
      rw [bytes.length_bytes]
      rfl
    refine ⟨words, ⟨known, allowed, words, regrouped, rfl⟩,
      Bech32.encode_of_encode written ?_⟩
    exact Nat.le_trans (Nat.le_of_eq (length regrouped)) (by decide)

/-- An entity is written as the text of the payload that is written for its
content. -/
theorem encode_eq_ok_iff {entity : Entity} {text : String} :
    encode entity = .ok text ↔
      ∃ payload, entity.content.payload = .ok payload ∧
        Spells text entity.kind payload := by
  rw [← kind_content, encode]
  cases entity.content with
  | bare kind bytes =>
      rw [Content.encode, Except.mapError_eq_ok_iff, encode_bareProgram_eq_ok_iff]
      simp [Content.payload, Content.kind]
  | tagged kind components =>
      simp only [Content.encode, Content.payload, Content.kind, Spells,
        Except.bind_eq_ok_iff, Except.mapError_eq_ok_iff]
      rfl

/-- An entity is written in lower case. -/
theorem isUpper_of_encode {entity : Entity} {text : String}
    (written : encode entity = .ok text) :
    ∀ character ∈ text.toList, character.isUpper = false := by
  rcases encode_eq_ok_iff.mp written with ⟨payload, -, words, -, spelled⟩
  exact Bech32.isUpper_of_encode spelled

theorem ofText_of_encode {entity : Entity} {text : String}
    (written : encode entity = .ok text) : ofText text = .ok entity := by
  rcases encode_eq_ok_iff.mp written with ⟨payload, produced, spells⟩
  rw [ofText, outcome_decode_eq_ok_iff_carriedBy]
  exact ⟨payload, readPayload_of_spells spells, carriedBy_of_payload produced⟩

/-- A text is read like every other one in a single case with the same letters. -/
theorem ofText_of_same_letters {text other : String} {entity : Entity}
    (read : ofText text = .ok entity)
    (same : Text.lowered other.toList = Text.lowered text.toList)
    (single : Text.isMixedCase other.toList = false) : ofText other = .ok entity := by
  rw [ofText, outcome_decode_eq_ok_iff_carriedBy] at read ⊢
  rcases read with ⟨payload, found, carried⟩
  rw [readPayload_eq_ok_iff, ← same] at found
  exact ⟨payload, readPayload_eq_ok_iff.mpr ⟨single, found.2⟩, carried⟩

/-- What is written for an entity is read as that entity, with the same relays in
the same order and the same fields present or absent. -/
theorem outcome_decode_of_encode (entity : Entity) (text : String)
    (written : encode entity = .ok text) :
    (decode text).outcome = .ok entity :=
  ofText_of_encode written

/-- An address with an empty identifier, an empty relay and a repeated one. -/
def sparseCoordinate : Coordinate where
  kind := 4294967295
  publicKey := ⟨.zero⟩
  identifier := ""
  relays := ["b", "", "a", "b"]

/-- The text of the address. -/
def sparseText : String :=
  "naddr1qqqqzqtzqyqqzqtpqyqkyq3qqqqqqqqqqqqqqqqqqqqqqqqqqqqqqqqqqqqqqqqq" ++
    "qqqqqqqqqqqqxp8lllll7mvdl2p"

theorem outcome_decode_encode_sparseCoordinate :
    encode (.naddr sparseCoordinate) = .ok sparseText ∧
      (decode sparseText).outcome = .ok (.naddr sparseCoordinate) := by
  have written : encode (.naddr sparseCoordinate) = .ok sparseText := by
    cbv
  exact ⟨written, outcome_decode_of_encode _ _ written⟩

/-- Whatever is read as an entity can be written again. The canonical text is no
longer than the one that was read, and reads as the same entity. -/
theorem exists_encode_of_outcome_decode (text : String) (entity : Entity)
    (read : (decode text).outcome = .ok entity) :
    ∃ canonical, encode entity = .ok canonical ∧
      canonical.utf8ByteSize ≤ text.utf8ByteSize ∧
      (decode canonical).outcome = .ok entity := by
  rcases outcome_decode_eq_ok_iff_carriedBy.mp read with ⟨payload, found, carried⟩
  -- The text itself need not be in lower case, in the order of the writer, or free
  -- of records that are passed over; only its payload is compared.
  rcases exists_payload_of_carriedBy carried with ⟨shorter, produced, fewer⟩
  rcases readPayload_eq_ok_iff.mp found with ⟨-, spelled⟩
  rcases exists_spells_of_length_le spelled fewer with ⟨canonical, spells⟩
  have foundAgain := readPayload_of_spells spells
  refine ⟨canonical, encode_eq_ok_iff.mpr ⟨shorter, produced, spells⟩, ?_, ?_⟩
  · rw [utf8ByteSize_of_readPayload found, utf8ByteSize_of_readPayload foundAgain]
    omega
  · rw [outcome_decode_eq_ok_iff_carriedBy]
    exact ⟨shorter, foundAgain, carriedBy_of_payload produced⟩

/-- A text with eleven relays, two records that profiles ignore, a primary value
behind them and another one after it, a sixteenth record that is no text, and bytes
that are left unread. -/
def disarrangedText : String :=
  "nprofile1qyqhwqgpwvqsqqgqqyqqzqqpqqqsqqgqqyqqzqqzqyzsxqqqyqq" ++
    "qqqqqqqqqqqqqqqqqqqqqqqqqqqqqqqqqqqqqqqqqqqqqqqqqqqqqqyql7zg4mjqlg"

/-- What is read of it: ten relays and the first primary value. -/
def disarrangedProfile : ProfilePointer where
  publicKey := ⟨.zero⟩
  relays := "w" :: "s" :: List.replicate 8 ""

theorem exists_encode_disarrangedProfile :
    (decode disarrangedText).outcome = .ok (.nprofile disarrangedProfile) ∧
      ∃ canonical, encode (.nprofile disarrangedProfile) = .ok canonical ∧
        canonical.utf8ByteSize ≤ disarrangedText.utf8ByteSize ∧
        (decode canonical).outcome = .ok (.nprofile disarrangedProfile) := by
  have read :
      (decode disarrangedText).outcome = .ok (.nprofile disarrangedProfile) := by
    cbv
  exact ⟨read, exists_encode_of_outcome_decode _ _ read⟩

end NostrEntities.Entity
