import NostrEntities.Proofs.Bech32.Substitution
import NostrEntities.Proofs.Entity.Grammar

/-!
# Texts that cannot be mistaken

Mistyping up to three symbols of a text never gives the text of another entity, since
the checksum notices them or turns out to be one of the other variant. And the
checksum covers the human-readable part: no data part belongs to two kinds.
-/

namespace NostrEntities.Entity

/-! ## What reading says of the layers below -/

theorem exists_decode_of_outcome_decode {text : String} {entity : Entity}
    (read : (decode text).outcome = .ok entity) :
    ∃ words, Bech32.decode maximumLength text =
      .ok { hrp := entity.kind.hrp, words, variant := .bech32 } := by
  rcases outcome_decode_eq_ok_iff_carriedBy.mp read with ⟨payload, found, -⟩
  rcases readPayload_eq_ok_iff.mp found with ⟨single, words, -, written⟩
  exact ⟨words, Bech32.decode_eq_ok_iff.mpr ⟨single, written⟩⟩

theorem outcome_decode_of_bech32_error {text : String} {cause : Bech32.Error}
    (failed : Bech32.decode maximumLength text = .error cause) :
    (decode text).outcome = .error (.bech32 cause) := by
  rw [decode, Traced.outcome_bind, Traced.outcome_ofExcept, readPayload, failed]
  rfl

theorem outcome_decode_of_wrongVariant {text : String} {parts : Bech32.Parts}
    (read : Bech32.decode maximumLength text = .ok parts)
    (other : parts.variant ≠ .bech32) :
    (decode text).outcome = .error .wrongVariant := by
  have refused : requireFirstVariant parts.variant = .error .wrongVariant :=
    if_neg other
  have failed : readPayload text = .error .wrongVariant := by
    rw [readPayload, read]
    simp only [Except.mapError, Except.ok_bind, refused, Except.error_bind]
  rw [decode, Traced.outcome_bind, Traced.outcome_ofExcept, failed]
  rfl

/-! ## Mistyped symbols -/

/-- Up to three mistyped symbols in the text of an entity never give the text of
another one. -/
theorem outcome_decode_of_mistyped (text other : String) (entity : Entity)
    (count : Nat) (positive : 0 < count) (few : count ≤ 3)
    (read : (decode text).outcome = .ok entity)
    (mistyped : Bech32.Mistyped count text other) :
    (decode other).outcome = .error (.bech32 .invalidChecksum) ∨
      (decode other).outcome = .error .wrongVariant := by
  rcases exists_decode_of_outcome_decode read with ⟨words, decoded⟩
  rcases Bech32.decode_of_few_mistyped (by decide) positive few decoded mistyped with
    failed | ⟨parts, otherDecoded, differ⟩
  · left
    exact outcome_decode_of_bech32_error failed
  · right
    exact outcome_decode_of_wrongVariant otherDecoded differ

/-- The data part of a profile with one relay, with the given symbols at three places
of its key. -/
def relayedData (first second third : Char) : List Char :=
  "qqsqq".toList ++ first :: ("qqqqqqqqq".toList ++ second ::
    ("qqqqqqqqqq".toList ++ third ::
      "qqqqqqqqqqqqqqqqqqqqqqqqqqqqpp4mhxue69uhhytnc9e3k7mg6zh2lj".toList))

/-- The text of the profile whose key is zero. -/
def relayedText : String :=
  "nprofile1qqsqqqqqqqqqqqqqqqqqqqqqqqqqqqqqqqqqqqqqqqqqqqqqqqq" ++
    "qqqqpp4mhxue69uhhytnc9e3k7mg6zh2lj"

/-- The text with three symbols mistyped. It is one of the other variant. -/
def mistypedText : String :=
  "nprofile1qqsqq5qqqqqqqqqnqqqqqqqqqq5qqqqqqqqqqqqqqqqqqqqqqqq" ++
    "qqqqpp4mhxue69uhhytnc9e3k7mg6zh2lj"

theorem outcome_decode_mistypedText :
    (decode relayedText).outcome =
        .ok (.nprofile { publicKey := ⟨.zero⟩, relays := ["wss://r.x.com"] }) ∧
      Bech32.Mistyped 3 relayedText mistypedText ∧
      ((decode mistypedText).outcome = .error (.bech32 .invalidChecksum) ∨
        (decode mistypedText).outcome = .error .wrongVariant) := by
  have read : (decode relayedText).outcome =
      .ok (.nprofile { publicKey := ⟨.zero⟩, relays := ["wss://r.x.com"] }) := by
    cbv
  have mistyped : Bech32.Mistyped 3 relayedText mistypedText := {
    replaced := ⟨"nprofile".toList, relayedData 'q' 'q' 'q', relayedData '5' 'n' '5',
      by decide +kernel, by decide, by decide +kernel,
      .append_left _ (.replace (by decide) (by decide)
        (.append_left _ (.replace (by decide) (by decide)
          (.append_left _ (.replace (by decide) (by decide) (.refl _))))))⟩
    single_case := by decide }
  exact ⟨read, mistyped,
    outcome_decode_of_mistyped _ _ _ _ (by decide) (by decide) read mistyped⟩

/-! ## Exchanged kinds -/

theorem kind_eq_of_residue_eq {first second : Kind} {words : List Bech32.Word}
    (same : Bech32.residue first.hrp.toList words =
      Bech32.residue second.hrp.toList words) : first = second := by
  have distinct :
      (Kind.all.map fun kind => Bech32.residue kind.hrp.toList []).Nodup := by
    decide +kernel
  have states : Bech32.residue first.hrp.toList [] =
      Bech32.residue second.hrp.toList [] := by
    apply Bech32.Residue.absorbAll_injective words
    show (Bech32.residue first.hrp.toList []).absorbAll words =
      (Bech32.residue second.hrp.toList []).absorbAll words
    rw [← Bech32.residue_append, ← Bech32.residue_append]
    exact same
  exact List.inj_on_of_nodup_map distinct (Kind.mem_all first)
    (Kind.mem_all second) states

/-- The text of an entity has a single separator, so wherever it is split there, the
two parts leave the residue of the first variant. -/
theorem residue_of_outcome_decode {text : String} {entity : Entity}
    {hrp data : List Char} (read : (decode text).outcome = .ok entity)
    (parted : text.toList = hrp ++ Bech32.separator :: data) :
    Bech32.residue (Text.lowered hrp) (Bech32.Word.ofSymbols data) =
      Bech32.Variant.bech32.constant := by
  rcases exists_decode_of_outcome_decode read with ⟨words, decoded⟩
  rcases Bech32.decode_eq_ok_iff_reads.mp decoded with
    ⟨before, after, reads, verified⟩
  rcases Bech32.verify_eq_ok_iff.mp verified with ⟨remains, named, -⟩
  have absent : Bech32.separator ∉ before := by
    intro member
    have inHrp := List.mem_map_of_mem (f := Char.toLower) member
    change Bech32.separator ∈ Text.lowered before at inHrp
    rw [← String.toList_ofList (l := Text.lowered before), ← named] at inHrp
    exact (mem_hrp inHrp).1 rfl
  have same := reads.toList_eq.symm.trans parted
  rw [List.append_cons_inj_of_notMem absent reads.separator_not_mem] at same
  rcases same with ⟨rfl, -, rfl⟩
  exact remains

/-- Texts of two kinds that are read never have the same data part, whatever the
case of either. -/
theorem kind_eq_of_same_data {first second : Kind} {text other : String}
    {entity otherEntity : Entity} {hrp otherHrp data otherData : List Char}
    (read : (decode text).outcome = .ok entity)
    (otherRead : (decode other).outcome = .ok otherEntity)
    (parted : text.toList = hrp ++ Bech32.separator :: data)
    (otherSplit : other.toList = otherHrp ++ Bech32.separator :: otherData)
    (named : Text.lowered hrp = first.hrp.toList)
    (otherNamed : Text.lowered otherHrp = second.hrp.toList)
    (same : Text.lowered otherData = Text.lowered data) : first = second := by
  have remains := residue_of_outcome_decode read parted
  have otherLeft := residue_of_outcome_decode otherRead otherSplit
  rw [named, ← Bech32.Word.ofSymbols_lowered] at remains
  rw [otherNamed, ← Bech32.Word.ofSymbols_lowered, same] at otherLeft
  exact kind_eq_of_residue_eq (remains.trans otherLeft.symm)

/-- Where a text of one kind is read, no text of another kind with the same data
part is. -/
theorem exists_cause_of_same_data {first second : Kind} (different : first ≠ second)
    {text other : String} {hrp otherHrp data otherData : List Char}
    (parted : text.toList = hrp ++ Bech32.separator :: data)
    (otherSplit : other.toList = otherHrp ++ Bech32.separator :: otherData)
    (named : Text.lowered hrp = first.hrp.toList)
    (otherNamed : Text.lowered otherHrp = second.hrp.toList)
    (same : Text.lowered otherData = Text.lowered data)
    (readable : ∃ entity, (decode text).outcome = .ok entity) :
    ∃ cause, (decode other).outcome = .error cause := by
  rcases readable with ⟨entity, read⟩
  cases otherRead : (decode other).outcome with
  | error cause => exact ⟨cause, rfl⟩
  | ok otherEntity =>
      exact absurd (kind_eq_of_same_data read otherRead parted otherSplit named
        otherNamed same) different

/-- Where the text of one kind is read, the text of another kind with the same data
part is refused, in lower case and in upper case alike. -/
theorem exists_cause_of_exchanged (first second : Kind) (data : String)
    (different : first ≠ second) :
    ((∃ entity, (decode (first.hrp ++ "1" ++ data)).outcome = .ok entity) →
        ∃ cause, (decode (second.hrp ++ "1" ++ data)).outcome = .error cause) ∧
      ((∃ entity,
          (decode (first.hrp ++ "1" ++ data).toUpper).outcome = .ok entity) →
        ∃ cause,
          (decode (second.hrp ++ "1" ++ data).toUpper).outcome = .error cause) := by
  have parted (kind : Kind) : (kind.hrp ++ "1" ++ data).toList =
      kind.hrp.toList ++ Bech32.separator :: data.toList := by
    simp [Bech32.separator]
  have splitUpper (kind : Kind) : (kind.hrp ++ "1" ++ data).toUpper.toList =
      kind.hrp.toList.map Char.toUpper ++
        Bech32.separator :: data.toList.map Char.toUpper := by
    simp [Bech32.separator, String.toUpper]
  have namedUpper (kind : Kind) :
      Text.lowered (kind.hrp.toList.map Char.toUpper) = kind.hrp.toList := by
    rw [Text.lowered_map_toUpper, lowered_hrp]
  constructor
  · exact exists_cause_of_same_data different (parted first) (parted second)
      (lowered_hrp first) (lowered_hrp second) rfl
  · exact exists_cause_of_same_data different (splitUpper first)
      (splitUpper second) (namedUpper first) (namedUpper second) rfl

/-- The data part of a public key of zeros. -/
def zeroKeyData : String :=
  "qqqqqqqqqqqqqqqqqqqqqqqqqqqqqqqqqqqqqqqqqqqqqqqqqqqqzqujme"

theorem exists_cause_of_exchanged_zeroKey :
    Kind.bare .npub ≠ Kind.bare .nsec ∧
      (decode (Kind.hrp (.bare .npub) ++ "1" ++ zeroKeyData)).outcome =
        .ok (.npub ⟨.zero⟩) ∧
      (decode (Kind.hrp (.bare .npub) ++ "1" ++ zeroKeyData).toUpper).outcome =
        .ok (.npub ⟨.zero⟩) ∧
      (∃ cause, (decode (Kind.hrp (.bare .nsec) ++ "1" ++ zeroKeyData)).outcome =
        .error cause) ∧
      ∃ cause,
        (decode (Kind.hrp (.bare .nsec) ++ "1" ++ zeroKeyData).toUpper).outcome =
          .error cause := by
  have different : Kind.bare .npub ≠ Kind.bare .nsec := by decide
  have read : (decode (Kind.hrp (.bare .npub) ++ "1" ++ zeroKeyData)).outcome =
      .ok (.npub ⟨.zero⟩) := by
    cbv
  have readUpper :
      (decode (Kind.hrp (.bare .npub) ++ "1" ++ zeroKeyData).toUpper).outcome =
        .ok (.npub ⟨.zero⟩) := by
    cbv
  rcases exists_cause_of_exchanged _ _ zeroKeyData different with ⟨lower, upper⟩
  exact ⟨different, read, readUpper, lower ⟨_, read⟩, upper ⟨_, readUpper⟩⟩

end NostrEntities.Entity
