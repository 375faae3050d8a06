import NostrEntities.Proofs.Entity.Content

/-!
# Required components

A layout can require relays, an author and a kind. Without a required author or kind
nothing is written and nothing is read. Relays are another matter: the checks of both
directions ask about relays only whether they are repeated or ignored, so required ones
may be absent, as if they were optional.
-/

namespace NostrEntities.Entity

open Record (values)

namespace Layout

variable {layout : Layout} {payload : Payload}

/-- Whether the author and the kind are there as far as a layout requires them. -/
structure Insists (layout : Layout) (payload : Payload) : Prop where
  author : layout.author = .required → payload.author ≠ none
  kind : layout.kind = .required → payload.kind ≠ none

theorem insists_of_encode {bytes : List UInt8}
    (written : layout.encode payload = .ok bytes) : layout.Insists payload := by
  rcases encode_eq_ok_iff_checked.mp written with ⟨-, author, kind, -, -⟩
  constructor
  · intro required
    exact Option.isSome_iff_ne_none.mp
      (Presence.requireIfNeeded_eq_ok_iff.mp author required)
  · intro required
    exact Option.isSome_iff_ne_none.mp
      (Presence.requireIfNeeded_eq_ok_iff.mp kind required)

theorem insists_of_decode {buffer : List UInt8}
    (read : (layout.decode buffer).outcome = .ok payload) :
    layout.Insists payload := by
  rcases outcome_layoutDecode_eq_ok_iff.mp read with ⟨records, tail, -, -, described⟩
  constructor
  · intro required
    exact Option.isSome_iff_ne_none.mp (described.fits.author_agrees.1 required)
  · intro required
    exact Option.isSome_iff_ne_none.mp (described.fits.kind_agrees.1 required)

/-- The absence of a required component is reported under its name. -/
theorem readSingle_of_missing {α : Type} {tag : Tag} {field : String}
    {read : List UInt8 → Except Error α} {records : List Record}
    (absent : values records tag = []) :
    readSingle .required tag field read records = .error (.missingField field) := by
  have noRecord : Record.first? records tag = none := by
    rw [← Option.map_eq_none_iff (f := Record.value), Record.map_value_first?, absent]
    rfl
  rw [readSingle, noRecord]
  rfl

/-- What a layout requires besides relays is there whenever something is written or
read; a required record that is absent is reported as missing. Required relays are
treated as optional ones in both directions. -/
theorem insists_and_required_relay_eq_optional (layout : Layout) (payload : Payload)
    (buffer : List UInt8) :
    (∀ bytes, layout.encode payload = .ok bytes → layout.Insists payload) ∧
      (∀ found, (layout.decode buffer).outcome = .ok found →
        layout.Insists found) ∧
      (∀ records, values records .author = [] → layout.author = .required →
        layout.readAuthor records = .error (.missingField "author")) ∧
      (∀ records, values records .kind = [] → layout.kind = .required →
        layout.readKind records = .error (.missingField "kind")) ∧
      ({ layout with relay := .required } : Layout).encode payload =
        ({ layout with relay := .optional } : Layout).encode payload ∧
      ({ layout with relay := .required } : Layout).decode buffer =
        ({ layout with relay := .optional } : Layout).decode buffer := by
  refine ⟨fun _ => insists_of_encode, fun _ => insists_of_decode, ?_, ?_, rfl, rfl⟩
  · intro records absent required
    rw [readAuthor, required]
    exact readSingle_of_missing absent
  · intro records absent required
    rw [readKind, required]
    exact readSingle_of_missing absent

/-- A layout that requires everything but relays. -/
def addressed : Layout := TaggedKind.naddr.layout

/-- A payload with everything that the layout requires. -/
def addressedPayload : Payload where
  special := []
  author := some ⟨.zero⟩
  kind := some 1

/-- The bytes of the payload. -/
def addressedBytes : List UInt8 :=
  [0, 0, 2, 32] ++ List.replicate 32 0 ++ [3, 4, 0, 0, 0, 1]

theorem insists_addressedPayload :
    addressed.encode addressedPayload = .ok addressedBytes ∧
      (addressed.decode addressedBytes).outcome = .ok addressedPayload ∧
      values [⟨.special, []⟩] .author = [] ∧ values [⟨.special, []⟩] .kind = [] ∧
      addressed.author = .required ∧ addressed.kind = .required ∧
      addressed.Insists addressedPayload ∧
      addressed.readAuthor [⟨.special, []⟩] = .error (.missingField "author") ∧
      addressed.readKind [⟨.special, []⟩] = .error (.missingField "kind") := by
  have written : addressed.encode addressedPayload = .ok addressedBytes := by
    cbv
  have fits : addressed.Fits addressedPayload :=
    ⟨⟨"", rfl⟩, Nat.zero_le _, Presence.agrees_true.mpr (by decide),
      Presence.agrees_true.mpr (by decide)⟩
  have read := outcome_layoutDecode_of_encode fits written
  rcases insists_and_required_relay_eq_optional addressed addressedPayload
    addressedBytes with ⟨-, insists, noAuthor, noKind, -⟩
  exact ⟨written, read, rfl, rfl, rfl, rfl, insists _ read, noAuthor _ rfl rfl,
    noKind _ rfl rfl⟩

/-- A layout that requires relays and nothing else. -/
def relayed : Layout where
  special := .text "identifier"
  relay := .required
  author := .ignored
  kind := .ignored

/-- It writes and reads a payload without any relay. -/
theorem required_relay_absent :
    relayed.relay = .required ∧
      relayed.encode { special := [], relays := [] } = .ok [0, 0] ∧
      (relayed.decode [0, 0]).outcome = .ok { special := [], relays := [] } := by
  have written : relayed.encode { special := [], relays := [] } = .ok [0, 0] := by
    cbv
  have fits : relayed.Fits { special := [], relays := [] } :=
    ⟨⟨"", rfl⟩, Nat.zero_le _, Presence.agrees_false.mpr (by decide),
      Presence.agrees_false.mpr (by decide)⟩
  exact ⟨rfl, written, outcome_layoutDecode_of_encode fits written⟩

end Layout

end NostrEntities.Entity
