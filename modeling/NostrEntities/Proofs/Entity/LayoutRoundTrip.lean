import Mathlib
import NostrEntities.Proofs.Entity.Content

/-!
# Reading what a layout writes

Writing a payload through a layout and reading the result through the same layout
gives the payload back, without the components that the layout ignores. This holds of
every layout, whatever the layouts of the kinds are.
-/

namespace NostrEntities.Entity

/-! ## What the checks of the writer say -/

/-- A primary value that is written has its form, as long as texts are texts: those are
written unchecked. -/
theorem Special.admits_of_requireWritable {special : Special} {value : List UInt8}
    (readable : ∀ name, special = .text name →
      ∃ text, value = Text.utf8Bytes text)
    (writable : special.requireWritable value = .ok ()) : special.Admits value := by
  cases special with
  | key name => exact requireReadable_eq_ok_iff.mp writable
  | text name => exact readable name rfl

/-- A component that the layout does not ignore. -/
def Presence.restrict {α : Type} (presence : Presence) (component : Option α) :
    Option α :=
  if presence = .ignored then none else component

/-- A component that is there if it is needed agrees with the layout once ignored ones
are removed. -/
theorem Presence.agrees_restrict {α : Type} {presence : Presence}
    {component : Option α} {field : String}
    (present : presence.requireIfNeeded field component.isSome = .ok ()) :
    presence.Agrees (presence.restrict component).isSome := by
  rw [restrict]
  split
  · rename_i ignored
    rw [ignored]
    exact ⟨nofun, fun _ => rfl⟩
  · rename_i carried
    refine ⟨?_, fun ignored => absurd ignored carried⟩
    intro required
    exact requireIfNeeded_eq_ok_iff.mp present required

theorem Presence.records_restrict {α : Type} (presence : Presence) (tag : Tag)
    (component : Option α) (write : α → List UInt8) :
    presence.records tag ((presence.restrict component).toList.map write) =
      presence.records tag (component.toList.map write) := by
  rw [records, records, restrict]
  split <;> rfl

namespace Layout

variable {layout : Layout} {payload : Payload} {bytes : List UInt8}

/-! ## Ignored components -/

/-- The payload without the components that the layout ignores. -/
def restrict (layout : Layout) (payload : Payload) : Payload where
  special := payload.special
  relays := if layout.relay = .ignored then [] else payload.relays
  author := layout.author.restrict payload.author
  kind := layout.kind.restrict payload.kind

/-- Ignored components are not written. -/
theorem records_restrict (layout : Layout) (payload : Payload) :
    layout.records (layout.restrict payload) = layout.records payload := by
  have relays : layout.relay.records .relay
      ((layout.restrict payload).relays.map Text.utf8Bytes) =
        layout.relay.records .relay (payload.relays.map Text.utf8Bytes) := by
    rw [Presence.records, Presence.records, restrict]
    split <;> rfl
  rw [records, relays]
  simp only [restrict, Presence.records_restrict]
  rfl

/-- A payload that is written fits the layout once ignored components are removed. -/
theorem fits_restrict
    (readable : ∀ name, layout.special = .text name →
      ∃ text, payload.special = Text.utf8Bytes text)
    (few : layout.relay ≠ .ignored → payload.relays.length ≤ maximumRelays)
    (written : layout.encode payload = .ok bytes) :
    layout.Fits (layout.restrict payload) := by
  rcases encode_eq_ok_iff_checked.mp written with ⟨writable, author, kind, -, -⟩
  refine ⟨Special.admits_of_requireWritable readable writable, ?_,
    Presence.agrees_restrict author, Presence.agrees_restrict kind⟩
  by_cases ignored : layout.relay = .ignored
  · simp [restrict, ignored]
  · simpa [restrict, ignored] using few ignored

/-- A payload is written as it is without its ignored components. -/
theorem encode_restrict (fits : layout.Fits (layout.restrict payload))
    (written : layout.encode payload = .ok bytes) :
    layout.encode (layout.restrict payload) = .ok bytes := by
  rcases encode_eq_ok_iff_checked.mp written with ⟨-, -, -, -, produced⟩
  rw [encode_eq_ok_iff fits, records_restrict]
  exact produced

/-- What a layout writes for a payload it reads as that payload, except that relays,
author and kind are absent where the layout ignores them. A text has to be one, and
relays have to be few enough to be read again. -/
theorem outcome_decode_of_encode_restrict (layout : Layout) (payload : Payload)
    (bytes : List UInt8)
    (readable : ∀ name, layout.special = .text name →
      ∃ text, payload.special = Text.utf8Bytes text)
    (few : layout.relay ≠ .ignored → payload.relays.length ≤ maximumRelays)
    (written : layout.encode payload = .ok bytes) :
    (layout.decode bytes).outcome = .ok {
      special := payload.special
      relays := if layout.relay = .ignored then [] else payload.relays
      author := if layout.author = .ignored then none else payload.author
      kind := if layout.kind = .ignored then none else payload.kind } := by
  have fits := fits_restrict readable few written
  exact outcome_layoutDecode_of_encode fits (encode_restrict fits written)

/-- A layout that is not the one of a kind: relays are needed but not limited, authors
are ignored and kinds may be there. -/
def unusual : Layout where
  special := .text "identifier"
  relay := .required
  author := .ignored
  kind := .repeated

/-- A payload with an author that the layout ignores. -/
def authored : Payload where
  special := Text.utf8Bytes "é"
  relays := ["", "a", ""]
  author := some ⟨.zero⟩
  kind := some 4294967295

theorem outcome_decode_of_encode_authored :
    (∀ name, unusual.special = .text name →
        ∃ text, authored.special = Text.utf8Bytes text) ∧
      (unusual.relay ≠ .ignored → authored.relays.length ≤ maximumRelays) ∧
      unusual.encode authored =
        .ok [0, 2, 195, 169, 1, 0, 1, 1, 97, 1, 0, 3, 4, 255, 255, 255, 255] ∧
      (unusual.decode
        [0, 2, 195, 169, 1, 0, 1, 1, 97, 1, 0, 3, 4, 255, 255, 255, 255]).outcome =
          .ok { authored with author := none } := by
  have readable : ∀ name, unusual.special = .text name →
      ∃ text, authored.special = Text.utf8Bytes text := fun _ _ => ⟨"é", rfl⟩
  have few : unusual.relay ≠ .ignored →
      authored.relays.length ≤ maximumRelays := by decide
  have written : unusual.encode authored =
      .ok [0, 2, 195, 169, 1, 0, 1, 1, 97, 1, 0, 3, 4, 255, 255, 255, 255] := by
    cbv
  exact ⟨readable, few, written,
    outcome_decode_of_encode_restrict _ _ _ readable few written⟩

end Layout

end NostrEntities.Entity
