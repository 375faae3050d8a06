import NostrEntities.Proofs.Entity.Secrecy

/-!
# Causes of failure behind a known human-readable part

Making an entity of components checks what taking them out of records has checked
already, so it never fails after that. Hence a text whose human-readable part names a
kind is refused for one of three causes only: it is too long for a bare kind, its
payload is not the 32 bytes of a bare kind, or its payload does not have the components
that the layout of a tagged kind asks for.
-/

namespace NostrEntities.Entity

variable {cause : Error} {text : String} {bytes buffer : List UInt8}

/-! ## Components that were checked -/

/-- The layout of a kind checks all that its entities need. -/
theorem exists_ofPayload_of_fits {kind : TaggedKind} {payload : Payload}
    (fits : kind.layout.Fits payload) :
    ∃ entity, ofPayload kind payload = .ok entity := by
  rcases payload with ⟨special, relays, author, eventKind⟩
  cases kind with
  | nprofile | nevent =>
      rcases fits.special_form with ⟨key, rfl⟩
      have read : ∀ field, readBytes32 field key.bytes = .ok key :=
        fun _ => readBytes32_eq_ok_iff.mpr rfl
      simp only [ofPayload, Payload.specialKey, read, Except.ok_bind]
      exact ⟨_, rfl⟩
  | naddr =>
      rcases fits.special_form with ⟨identifier, rfl⟩
      have read : ∀ field, readText field (Text.utf8Bytes identifier) = .ok identifier :=
        fun _ => readText_eq_ok_iff.mpr rfl
      rcases Option.isSome_iff_exists.mp (fits.author_agrees.1 rfl) with ⟨key, rfl⟩
      rcases Option.isSome_iff_exists.mp (fits.kind_agrees.1 rfl) with ⟨number, rfl⟩
      simp only [ofPayload, Payload.requiredKind, Payload.requiredAuthor,
        Payload.specialText, read, Except.ok_bind]
      exact ⟨_, rfl⟩
  | nrelay =>
      rcases fits.special_form with ⟨url, rfl⟩
      have read : ∀ field, readText field (Text.utf8Bytes url) = .ok url :=
        fun _ => readText_eq_ok_iff.mpr rfl
      simp only [ofPayload, Payload.specialText, read, Except.ok_bind]
      exact ⟨_, rfl⟩

theorem exists_ofPayload_of_layoutDecode {kind : TaggedKind} {payload : Payload}
    (read : (kind.layout.decode buffer).outcome = .ok payload) :
    ∃ entity, ofPayload kind payload = .ok entity := by
  rcases outcome_layoutDecode_eq_ok_iff.mp read with ⟨records, tail, -, -, described⟩
  exact exists_ofPayload_of_fits described.fits

/-! ## Kinds that are refused by name -/

/-- The layout of a kind whose texts carry records. -/
def layout? : Kind → Option Layout
  | .bare _ => none
  | .tagged kind => some kind.layout

/-- Make an entity of components, but refuse a kind that has none. -/
def ofPayloadUnlessBare (kind : Kind) (payload : Payload) : Except Error Entity :=
  match kind with
  | .bare kind => .error (.unrecognizedHrp kind.hrp)
  | .tagged kind => ofPayload kind payload

/-- Make an entity of 32 bytes, but refuse a kind that has components. -/
def ofBytesUnlessTagged (kind : Kind) (bytes : List UInt8) : Except Error Entity := do
  let value ← readBytes32 kind.hrp bytes
  match kind with
  | .bare kind => return ofBytes32 kind value
  | .tagged kind => throw (.unrecognizedHrp kind.hrp)

/-- Take an entity out of the payload of a text, where whether there is a layout decides
on the way, and each way refuses the kinds of the other. -/
def ofLayoutAndPayload (kind : Kind) (bytes : List UInt8) : Traced Error Entity :=
  match layout? kind with
  | some layout => do
      let payload ← layout.decode bytes
      .ofExcept (ofPayloadUnlessBare kind payload)
  | none => .ofExcept (ofBytesUnlessTagged kind bytes)

/-- No kind is ever refused by name, since each has a layout or is bare. -/
theorem ofLayoutAndPayload_eq (kind : Kind) (bytes : List UInt8) :
    ofLayoutAndPayload kind bytes = ofKindAndPayload kind bytes := by
  cases kind with
  | tagged kind => rfl
  | bare kind =>
      show Traced.ofExcept (readBytes32 kind.hrp bytes >>= _) =
        Traced.ofExcept ((readBytes32 kind.hrp bytes).map (ofBytes32 kind))
      cases readBytes32 kind.hrp bytes <;> rfl

/-! ## Causes from the components -/

/-- Whether a cause is about records or about a field in them. -/
def Error.IsAboutFields : Error → Prop
  | .record _ | .missingField _ | .malformedField _ _ => True
  | _ => False

theorem isAboutFields_of_readBytes32 {field : String} {value : List UInt8}
    (failed : readBytes32 field value = .error cause) : cause.IsAboutFields := by
  rw [readBytes32] at failed
  split at failed <;> cases failed
  trivial

theorem isAboutFields_of_readText {field : String} {value : List UInt8}
    (failed : readText field value = .error cause) : cause.IsAboutFields := by
  rw [readText] at failed
  split at failed <;> cases failed
  trivial

theorem isAboutFields_of_readEventKind {field : String} {value : List UInt8}
    (failed : readEventKind field value = .error cause) : cause.IsAboutFields := by
  rw [readEventKind] at failed
  split at failed <;> cases failed
  trivial

theorem isAboutFields_of_readTexts {field : String} {contents : List (List UInt8)}
    (failed : readTexts field contents = .error cause) : cause.IsAboutFields := by
  induction contents with
  | nil => cases failed
  | cons value rest ih =>
      simp only [readTexts, Except.bind_eq_error_iff, Except.pure_ne_error, and_false,
        exists_false, or_false] at failed
      rcases failed with malformed | ⟨text, -, others⟩
      · exact isAboutFields_of_readText malformed
      · exact ih others

namespace Layout

variable {layout : Layout} {records : List Record}

theorem isAboutFields_of_readSpecial (failed : layout.readSpecial records = .error cause) :
    cause.IsAboutFields := by
  rw [readSpecial_eq] at failed
  split at failed
  · cases failed
    trivial
  · simp only [Except.bind_eq_error_iff, Except.pure_ne_error, and_false, exists_false,
      or_false] at failed
    cases form : layout.special with
    | key name =>
        rw [form, Special.requireReadable, Except.map_eq_error_iff] at failed
        exact isAboutFields_of_readBytes32 failed
    | text name =>
        rw [form, Special.requireReadable, Except.map_eq_error_iff] at failed
        exact isAboutFields_of_readText failed

theorem isAboutFields_of_readSingle {α : Type} {presence : Presence} {tag : Tag}
    {field : String} {read : List UInt8 → Except Error α}
    (malformed : ∀ value cause, read value = .error cause → cause.IsAboutFields)
    (failed : readSingle presence tag field read records = .error cause) :
    cause.IsAboutFields := by
  rw [readSingle] at failed
  split at failed
  · cases failed
  · split at failed
    · exact malformed _ _ (Except.map_eq_error_iff.mp failed)
    · split at failed <;> cases failed
      trivial

/-- Reading the components of any layout fails for a cause that is about them. -/
theorem isAboutFields_of_decode (failed : (layout.decode buffer).outcome = .error cause) :
    cause.IsAboutFields := by
  simp only [Layout.decode, ofRecords, Traced.outcome_bind, Traced.outcome_mapError,
    Traced.outcome_ofExcept, Traced.outcome_pure, Except.bind_eq_error_iff,
    Except.mapError_eq_error_iff, outcome_readRelays, reduceCtorEq, and_false,
    exists_false, or_false] at failed
  rcases failed with ⟨original, -, rfl⟩ |
    ⟨records, -, special | ⟨-, -, relays | ⟨-, -, author | ⟨-, -, kind⟩⟩⟩⟩
  · trivial
  · exact isAboutFields_of_readSpecial special
  · exact isAboutFields_of_readTexts relays
  · refine isAboutFields_of_readSingle ?_ author
    intro value cause failed
    exact isAboutFields_of_readBytes32 (Except.map_eq_error_iff.mp failed)
  · exact isAboutFields_of_readSingle (fun _ _ => isAboutFields_of_readEventKind) kind

end Layout

/-! ## Causes from the whole text -/

/-- Reading a text that is too long for a bare kind, or whose payload is not 32 bytes,
fails with that cause, the length first. -/
theorem bareVerdict_eq_error_iff {kind : BareKind} {textLength payloadLength : Nat} :
    bareVerdict kind textLength payloadLength = .error cause ↔
      90 < textLength ∧ cause = .bech32 (.lengthExceeded textLength 90) ∨
        textLength ≤ 90 ∧ payloadLength ≠ 32 ∧
          cause = .malformedField kind.hrp (.wrongLength 32 payloadLength) := by
  have short : (∃ nothing, requireShort (.bare kind) textLength = .ok nothing) ↔
      textLength ≤ 90 := by
    rw [Except.exists_unit_iff, requireShort_bare_eq_ok_iff]
    rfl
  have long : requireShort (.bare kind) textLength = .error cause ↔
      90 < textLength ∧ cause = .bech32 (.lengthExceeded textLength 90) := by
    show (Bech32.requireWithin 90 textLength).mapError Error.bech32 = _ ↔ _
    simp only [Except.mapError_eq_error_iff, Bech32.requireWithin_eq_error_iff]
    constructor
    · intro refused
      rcases refused with ⟨original, ⟨exceeded, rfl⟩, rfl⟩
      exact ⟨exceeded, rfl⟩
    · intro refused
      rcases refused with ⟨exceeded, rfl⟩
      exact ⟨_, ⟨exceeded, rfl⟩, rfl⟩
  rw [bareVerdict, Except.bind_eq_error_iff, long, exists_and_right, short]
  refine or_congr_right (and_congr_right fun _ => ?_)
  split
  · rename_i whole
    simp [whole]
  · rename_i other
    simp [other, eq_comm]

theorem outcome_decode_eq_error_iff_of_bare {kind : BareKind}
    (read : readPayload text = .ok (.bare kind, bytes)) :
    (decode text).outcome = .error cause ↔
      90 < text.utf8ByteSize ∧
          cause = .bech32 (.lengthExceeded text.utf8ByteSize 90) ∨
        text.utf8ByteSize ≤ 90 ∧ bytes.length ≠ 32 ∧
          cause = .malformedField kind.hrp (.wrongLength 32 bytes.length) := by
  rw [← bareVerdict_eq_error_iff, ← map_outcome_decode_of_bare read,
    Except.map_eq_error_iff]

theorem outcome_decode_eq_error_iff_of_tagged {kind : TaggedKind}
    (read : readPayload text = .ok (.tagged kind, bytes)) :
    (decode text).outcome = .error cause ↔
      (kind.layout.decode bytes).outcome = .error cause := by
  have whole : (decode text).outcome = (kind.layout.decode bytes).outcome >>=
      fun payload => ofPayload kind payload := by
    rw [decode, Traced.outcome_bind, Traced.outcome_ofExcept, read, Except.ok_bind]
    simp only [Traced.outcome_bind, Traced.outcome_ofExcept, Traced.outcome_notify,
      ofKindAndPayload]
    rfl
  rw [whole, Except.bind_eq_error_iff, or_iff_left]
  intro failed
  rcases failed with ⟨payload, taken, failed⟩
  rcases exists_ofPayload_of_layoutDecode taken with ⟨entity, made⟩
  rw [made] at failed
  cases failed

theorem outcome_decode_of_readPayload_error (failed : readPayload text = .error cause) :
    (decode text).outcome = .error cause := by
  rw [decode, Traced.outcome_bind, Traced.outcome_ofExcept, failed, Except.error_bind]

theorem readPayload_ne_unrecognizedHrp (kind : Kind) :
    readPayload text ≠ .error (.unrecognizedHrp kind.hrp) := by
  intro failed
  simp only [readPayload, Except.bind_eq_error_iff, Except.mapError_eq_error_iff,
    Except.pure_ne_error, reduceCtorEq, and_false, exists_false, false_or, or_false]
    at failed
  rcases failed with ⟨parts, -, second | ⟨-, -, bytes, -, unknown⟩⟩
  · rw [requireFirstVariant] at second
    split at second <;> cases second
  · rw [kindOfHrp] at unknown
    split at unknown
    · cases unknown
    · rename_i absent
      simp only [Except.error.injEq, Error.unrecognizedHrp.injEq] at unknown
      rw [unknown, Kind.ofHrp?_hrp] at absent
      cases absent

theorem outcome_decode_ne_unrecognizedHrp (text : String) (kind : Kind) :
    (decode text).outcome ≠ .error (.unrecognizedHrp kind.hrp) := by
  intro failed
  cases read : readPayload text with
  | error cause =>
      rw [outcome_decode_of_readPayload_error read] at failed
      cases failed
      exact readPayload_ne_unrecognizedHrp kind read
  | ok found =>
      rcases found with ⟨other, bytes⟩
      cases other with
      | bare other =>
          rcases (outcome_decode_eq_error_iff_of_bare read).mp failed with
            ⟨-, same⟩ | ⟨-, -, same⟩ <;> cases same
      | tagged other =>
          exact Layout.isAboutFields_of_decode
            ((outcome_decode_eq_error_iff_of_tagged read).mp failed)

/-- Components that were taken out of a buffer make an entity, so the only causes behind a
human-readable part that names a kind are the length of a bare text, the number of bytes
of a bare payload, and those of the layout of a tagged kind. No kind is refused by its
own name, neither where entities are made nor for a whole text. -/
theorem exists_ofPayload_and_decode_causes :
    (∀ (kind : TaggedKind) (buffer : List UInt8) (payload : Payload),
      (kind.layout.decode buffer).outcome = .ok payload →
        ∃ entity, ofPayload kind payload = .ok entity) ∧
    (∀ kind bytes, ofLayoutAndPayload kind bytes = ofKindAndPayload kind bytes) ∧
    (∀ text (kind : Kind), (decode text).outcome ≠ .error (.unrecognizedHrp kind.hrp)) ∧
    (∀ text cause, readPayload text = .error cause →
      (decode text).outcome = .error cause) ∧
    (∀ text (kind : BareKind) bytes, readPayload text = .ok (.bare kind, bytes) →
      ∀ cause, (decode text).outcome = .error cause ↔
        90 < text.utf8ByteSize ∧
            cause = .bech32 (.lengthExceeded text.utf8ByteSize 90) ∨
          text.utf8ByteSize ≤ 90 ∧ bytes.length ≠ 32 ∧
            cause = .malformedField kind.hrp (.wrongLength 32 bytes.length)) ∧
    ∀ text (kind : TaggedKind) bytes, readPayload text = .ok (.tagged kind, bytes) →
      ∀ cause, (decode text).outcome = .error cause ↔
        (kind.layout.decode bytes).outcome = .error cause :=
  ⟨fun _ _ _ taken => exists_ofPayload_of_layoutDecode taken, ofLayoutAndPayload_eq,
    outcome_decode_ne_unrecognizedHrp,
    fun _ _ failed => outcome_decode_of_readPayload_error failed,
    fun _ _ _ read _ => outcome_decode_eq_error_iff_of_bare read,
    fun _ _ _ read _ => outcome_decode_eq_error_iff_of_tagged read⟩

/-- A public key of fifty bytes: too long a text, and too long a payload. -/
def longKeyText : String :=
  "npub1qurswpc8qurswpc8qurswpc8qurswpc8qurswpc8qurswpc8qurswpc8qurswpc8qurswpc8qurswpc8669738"

/-- A relay without an address: one record, of another tag. -/
def emptyRelayText : String := "nrelay1qyqqa6ac5n"

theorem decode_causes_of_faulty_texts :
    (TaggedKind.nrelay.layout.decode [0, 0]).outcome = .ok { special := [] } ∧
      (∃ entity, ofPayload .nrelay { special := [] } = .ok entity) ∧
      readPayload "nrelays1qyqqq3u6sm" = .error (.unrecognizedHrp "nrelays") ∧
      (decode "nrelays1qyqqq3u6sm").outcome = .error (.unrecognizedHrp "nrelays") ∧
      readPayload longKeyText = .ok (.bare .npub, List.replicate 50 7) ∧
      (decode longKeyText).outcome = .error (.bech32 (.lengthExceeded 91 90)) ∧
      readPayload emptyRelayText = .ok (.tagged .nrelay, [1, 0]) ∧
      (decode emptyRelayText).outcome = .error (.missingField "relay") := by
  rcases exists_ofPayload_and_decode_causes with
    ⟨total, -, -, unread, bare, tagged⟩
  have fits : TaggedKind.nrelay.layout.Fits { special := [] } :=
    ⟨⟨"", rfl⟩, Nat.zero_le _, Presence.agrees_false.mpr (by decide),
      Presence.agrees_false.mpr (by decide)⟩
  have taken : (TaggedKind.nrelay.layout.decode [0, 0]).outcome =
      .ok { special := [] } :=
    outcome_layoutDecode_of_encode fits (by cbv)
  have unknown : readPayload "nrelays1qyqqq3u6sm" =
      .error (.unrecognizedHrp "nrelays") := by
    cbv
  have key : readPayload longKeyText = .ok (.bare .npub, List.replicate 50 7) :=
    readPayload_of_spells
      ⟨(List.replicate 10 [0, 28, 3, 16, 14, 1, 24, 7]).flatten, by cbv, by cbv⟩
  have relay : readPayload emptyRelayText = .ok (.tagged .nrelay, [1, 0]) :=
    readPayload_of_spells ⟨[0, 4, 0, 0], by cbv, by cbv⟩
  have missing : (TaggedKind.nrelay.layout.decode [1, 0]).outcome =
      .error (.missingField "relay") := by
    cbv
  exact ⟨taken, total _ _ _ taken, unknown, unread _ _ unknown, key,
    (bare _ _ _ key _).mpr (.inl (by decide)), relay, (tagged _ _ _ relay _).mpr missing⟩

end NostrEntities.Entity
