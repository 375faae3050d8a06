import NostrEntities.Proofs.Entity.Layout

/-!
# Records that a layout cannot tell apart

What is read of records depends on the first value of each tag and on the first ten
relays, and not even on those where the layout ignores the tag. So the order in which tags
follow each other, further records of a tag and records of ignored tags change neither
what is read nor why it is refused.
-/

namespace NostrEntities.Entity.Layout

open Record (values)

/-- Whether two lists of records have the same first values, as far as a layout looks at
them. -/
structure Alike (layout : Layout) (records others : List Record) : Prop where
  special : (values records .special).head? = (values others .special).head?
  relays : layout.relay ≠ .ignored →
    (values records .relay).take 10 = (values others .relay).take 10
  author : layout.author ≠ .ignored →
    (values records .author).head? = (values others .author).head?
  kind : layout.kind ≠ .ignored →
    (values records .kind).head? = (values others .kind).head?

variable {layout : Layout} {records others : List Record}

/-! ## Components -/

theorem readSpecial_congr
    (same : (values records .special).head? = (values others .special).head?) :
    layout.readSpecial records = layout.readSpecial others := by
  rw [readSpecial_eq, readSpecial_eq, same]

theorem outcome_readRelays_congr
    (same : layout.relay ≠ .ignored →
      (values records .relay).take 10 = (values others .relay).take 10) :
    (layout.readRelays records).outcome = (layout.readRelays others).outcome := by
  have sameRelays : (layout.relayValues records).take maximumRelays =
      (layout.relayValues others).take maximumRelays := by
    by_cases ignored : layout.relay = .ignored
    · rw [relayValues, relayValues, if_pos ignored, if_pos ignored]
    · rw [relayValues_of_carried ignored, relayValues_of_carried ignored]
      exact same ignored
  rw [outcome_readRelays, outcome_readRelays, sameRelays]

theorem readSingle_congr {α : Type} {presence : Presence} {tag : Tag} {field : String}
    {read : List UInt8 → Except Error α}
    (same : presence ≠ .ignored →
      (values records tag).head? = (values others tag).head?) :
    readSingle presence tag field read records =
      readSingle presence tag field read others := by
  rw [readSingle_eq, readSingle_eq]
  split
  · rfl
  · rename_i carried
    rw [same carried]

/-! ## Payloads -/

theorem outcome_ofRecords_congr (alike : layout.Alike records others) :
    (layout.ofRecords records).outcome = (layout.ofRecords others).outcome := by
  simp only [ofRecords, Traced.outcome_bind, Traced.outcome_ofExcept,
    readSpecial_congr alike.special, outcome_readRelays_congr alike.relays, readAuthor,
    readKind, readSingle_congr alike.author, readSingle_congr alike.kind]

theorem outcome_decode_of_records {buffer : List UInt8}
    (parsed : (Record.readAll buffer).outcome = .ok records) :
    (layout.decode buffer).outcome = (layout.ofRecords records).outcome := by
  rw [decode, Traced.outcome_bind, Traced.outcome_mapError, parsed]
  rfl

/-- Buffers whose records are alike to a layout are read as the same payload, or refused
for the same cause. -/
theorem outcome_decode_eq_of_alike (layout : Layout) (buffer other : List UInt8)
    (records others : List Record)
    (parsed : (Record.readAll buffer).outcome = .ok records)
    (otherParsed : (Record.readAll other).outcome = .ok others)
    (alike : layout.Alike records others) :
    (layout.decode buffer).outcome = (layout.decode other).outcome := by
  rw [outcome_decode_of_records parsed, outcome_decode_of_records otherParsed]
  exact outcome_ofRecords_congr alike

/-! ## Rearranged records -/

/-- The records of a profile with ten relays, in the order in which they are written. -/
def arranged : List Record :=
  ⟨.special, List.replicate 32 0⟩ :: List.replicate 10 ⟨.relay, [97]⟩

/-- The same relays and key behind an event kind, and then a relay that is no text, a key
that is none and an author that is none. -/
def rearranged : List Record :=
  ⟨.kind, []⟩ :: (List.replicate 10 ⟨.relay, [97]⟩ ++
    [⟨.special, List.replicate 32 0⟩, ⟨.relay, [255]⟩, ⟨.special, []⟩, ⟨.author, [1]⟩])

theorem outcome_decode_eq_rearranged :
    (Record.readAll (Record.bytesOfAll arranged)).outcome = .ok arranged ∧
      (Record.readAll (Record.bytesOfAll rearranged)).outcome = .ok rearranged ∧
      TaggedKind.nprofile.layout.Alike arranged rearranged ∧
      (TaggedKind.nprofile.layout.decode (Record.bytesOfAll arranged)).outcome =
        (TaggedKind.nprofile.layout.decode (Record.bytesOfAll rearranged)).outcome := by
  have parsed : (Record.readAll (Record.bytesOfAll arranged)).outcome =
      .ok arranged := by
    cbv
  have otherParsed : (Record.readAll (Record.bytesOfAll rearranged)).outcome =
      .ok rearranged := by
    cbv
  have alike : TaggedKind.nprofile.layout.Alike arranged rearranged :=
    ⟨by decide, fun _ => by decide, fun carried => absurd rfl carried,
      fun carried => absurd rfl carried⟩
  exact ⟨parsed, otherParsed, alike,
    outcome_decode_eq_of_alike _ _ _ _ _ parsed otherParsed alike⟩

end NostrEntities.Entity.Layout
