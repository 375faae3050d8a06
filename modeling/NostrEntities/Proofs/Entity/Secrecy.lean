import NostrEntities.Proofs.Entity.Grammar

/-!
# What is told of a secret

Reading the text of a bare kind tells how long the text and its payload are and which kind
it is, and nothing of the 32 bytes themselves: the notices and the cause of a failure can
be computed from those three alone. Two texts of one length cannot be told apart by them.
-/

namespace NostrEntities.Entity

variable {kind : BareKind} {text : String} {bytes : List UInt8}

/-- What the log is told of a bare text, given the lengths of the text and its payload. -/
def bareNotices (kind : BareKind) (textLength payloadLength : Nat) : List Notice :=
  if textLength ≤ Witness.maximumLength then [.decoding (.bare kind) payloadLength]
  else []

/-- Whether a bare text is read or why not, given the lengths of the text and its
payload. -/
def bareVerdict (kind : BareKind) (textLength payloadLength : Nat) :
    Except Error Unit := do
  requireShort (.bare kind) textLength
  if payloadLength = 32 then .ok ()
  else .error (.malformedField kind.hrp (.wrongLength 32 payloadLength))

/-! ## Reading from lengths -/

theorem requireShort_bare_eq_ok_iff (kind : BareKind) {length : Nat} :
    requireShort (.bare kind) length = .ok () ↔ length ≤ Witness.maximumLength := by
  show (Bech32.requireWithin Witness.maximumLength length).mapError
    Error.bech32 = .ok () ↔ _
  rw [Except.mapError_eq_ok_iff, Bech32.requireWithin_eq_ok_iff]

/-- Of the bytes of a payload only their number matters for whether it is read. -/
theorem map_ofBareBytes (kind : BareKind) (bytes : List UInt8) :
    (ofBareBytes kind bytes).map (fun _ => ()) =
      if bytes.length = 32 then .ok ()
      else .error (.malformedField kind.hrp (.wrongLength 32 bytes.length)) := by
  rw [ofBareBytes, readBytes32]
  by_cases whole : bytes.length = 32
  · rw [if_pos whole, Bytes32.ofBytes?, dif_pos whole]
    rfl
  · rw [if_neg whole, Bytes32.ofBytes?_eq_none_iff.mpr whole]
    rfl

theorem notices_decode_of_bare (read : readPayload text = .ok (.bare kind, bytes)) :
    (decode text).notices = bareNotices kind text.utf8ByteSize bytes.length := by
  rw [decode, read, Traced.ofExcept_ok_bind, bareNotices]
  show (Traced.ofExcept (requireShort (.bare kind) text.utf8ByteSize) >>= _).notices = _
  cases verdict : requireShort (.bare kind) text.utf8ByteSize with
  | ok nothing =>
      rw [if_pos ((requireShort_bare_eq_ok_iff kind).mp verdict)]
      rfl
  | error cause =>
      have long : ¬ text.utf8ByteSize ≤ Witness.maximumLength := by
        intro short
        rw [(requireShort_bare_eq_ok_iff kind).mpr short] at verdict
        cases verdict
      rw [if_neg long, Traced.ofExcept_error_bind, Traced.notices_fail]

theorem map_outcome_decode_of_bare
    (read : readPayload text = .ok (.bare kind, bytes)) :
    (decode text).outcome.map (fun _ => ()) =
      bareVerdict kind text.utf8ByteSize bytes.length := by
  rw [bareVerdict, ← map_ofBareBytes, decode, Traced.outcome_bind,
    Traced.outcome_ofExcept, read, Except.ok_bind, Traced.outcome_bind,
    Traced.outcome_ofExcept]
  cases requireShort (.bare kind) text.utf8ByteSize <;> rfl

/-! ## Two texts -/

theorem readPayload_of_decode {words : List UInt8} {kind : Kind}
    (decoded : Bech32.decode maximumLength text =
      .ok { hrp := kind.hrp, words, variant := .bech32 })
    (regrouped : Bech32.bytesOfWords words = .ok bytes) :
    readPayload text = .ok (kind, bytes) := by
  rw [readPayload, decoded]
  have named : kindOfHrp kind.hrp = .ok kind := kindOfHrp_eq_ok_iff.mpr rfl
  show (Bech32.bytesOfWords words).mapError Error.bech32 >>= _ = _
  rw [regrouped]
  show kindOfHrp kind.hrp >>= _ = _
  rw [named]
  rfl

/-- Texts of one length under one human-readable part have payloads of one length. -/
theorem length_eq_of_readPayload {first second : String} {kind : Kind}
    {bytes others : List UInt8} (same : first.utf8ByteSize = second.utf8ByteSize)
    (read : readPayload first = .ok (kind, bytes))
    (otherRead : readPayload second = .ok (kind, others)) :
    bytes.length = others.length := by
  have size := utf8ByteSize_of_readPayload read
  have otherSize := utf8ByteSize_of_readPayload otherRead
  omega

/-- The log of a bare text and the fate of its reading depend on its length and its
kind, and on nothing else of what it spells. -/
theorem notices_decode_eq_of_same_length (kind : BareKind) (first second : String)
    (words otherWords bytes otherBytes : List UInt8)
    (same : first.utf8ByteSize = second.utf8ByteSize)
    (decoded : Bech32.decode maximumLength first =
      .ok { hrp := kind.hrp, words, variant := .bech32 })
    (otherDecoded : Bech32.decode maximumLength second =
      .ok { hrp := kind.hrp, words := otherWords, variant := .bech32 })
    (regrouped : Bech32.bytesOfWords words = .ok bytes)
    (otherRegrouped : Bech32.bytesOfWords otherWords = .ok otherBytes) :
    (decode first).notices = (decode second).notices ∧
      ((∃ entity other, (decode first).outcome = .ok entity ∧
          (decode second).outcome = .ok other) ∨
        ∃ cause, (decode first).outcome = .error cause ∧
          (decode second).outcome = .error cause) := by
  have read : readPayload first = .ok (.bare kind, bytes) :=
    readPayload_of_decode decoded regrouped
  have otherRead : readPayload second = .ok (.bare kind, otherBytes) :=
    readPayload_of_decode otherDecoded otherRegrouped
  have lengths := length_eq_of_readPayload same read otherRead
  rw [← Except.map_unit_eq_iff, map_outcome_decode_of_bare read,
    map_outcome_decode_of_bare otherRead, notices_decode_of_bare read,
    notices_decode_of_bare otherRead, same, lengths]
  exact ⟨rfl, rfl⟩

/-- A secret key of 31 zeros, a byte short. -/
def shortZeroText : String :=
  "nsec1qqqqqqqqqqqqqqqqqqqqqqqqqqqqqqqqqqqqqqqqqqqqqqqqqqcfglz6"

/-- A secret key of 31 sevens, a byte short. -/
def shortSevenText : String :=
  "nsec1qurswpc8qurswpc8qurswpc8qurswpc8qurswpc8qurswpc8qukeql4z"

theorem notices_decode_shortZeroText :
    Bech32.decode maximumLength shortZeroText =
        .ok { hrp := "nsec", words := List.replicate 50 0, variant := .bech32 } ∧
      Bech32.decode maximumLength shortSevenText =
        .ok { hrp := "nsec",
              words := (List.replicate 6 [0, 28, 3, 16, 14, 1, 24, 7]).flatten ++ [0, 28],
              variant := .bech32 } ∧
      (decode shortZeroText).notices = (decode shortSevenText).notices ∧
      ((∃ entity other, (decode shortZeroText).outcome = .ok entity ∧
          (decode shortSevenText).outcome = .ok other) ∨
        ∃ cause, (decode shortZeroText).outcome = .error cause ∧
          (decode shortSevenText).outcome = .error cause) := by
  have zeros : Bech32.decode maximumLength shortZeroText =
      .ok { hrp := "nsec", words := List.replicate 50 0, variant := .bech32 } := by
    cbv
  have sevens : Bech32.decode maximumLength shortSevenText =
      .ok { hrp := "nsec",
            words := (List.replicate 6 [0, 28, 3, 16, 14, 1, 24, 7]).flatten ++ [0, 28],
            variant := .bech32 } := by
    cbv
  have zeroBytes : Bech32.bytesOfWords (List.replicate 50 0) =
      .ok (List.replicate 31 0) := by
    cbv
  have sevenBytes : Bech32.bytesOfWords
      ((List.replicate 6 [0, 28, 3, 16, 14, 1, 24, 7]).flatten ++ [0, 28]) =
      .ok (List.replicate 31 7) := by
    cbv
  exact ⟨zeros, sevens, notices_decode_eq_of_same_length .nsec shortZeroText
    shortSevenText _ _ _ _ (by cbv) zeros sevens zeroBytes sevenBytes⟩

end NostrEntities.Entity
