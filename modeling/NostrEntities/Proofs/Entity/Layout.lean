import NostrEntities.Entity.Layout
import NostrEntities.Proofs.Record.Values

/-!
# Records as payloads

A layout takes a payload out of records exactly when the records describe it: the
first value of each tag is the component, relays are taken up to their limit, and
what the layout ignores stays absent. The records written for a payload describe
it, and they are among any other records that do.
-/

namespace NostrEntities.Entity

open Record (values)

/-! ## Fields -/

theorem readBytes32_eq_ok_iff {field : String} {value : List UInt8}
    {bytes : Bytes32} :
    readBytes32 field value = .ok bytes ↔ value = bytes.bytes := by
  rw [← Bytes32.ofBytes?_eq_some_iff, readBytes32]
  cases Bytes32.ofBytes? value <;> simp

theorem readText_eq_ok_iff {field text : String} {value : List UInt8} :
    readText field value = .ok text ↔ value = Text.utf8Bytes text := by
  rw [← Text.ofUtf8?_eq_some_iff, readText]
  cases Text.ofUtf8? value <;> simp

theorem readEventKind_eq_ok_iff {field : String} {value : List UInt8}
    {kind : UInt32} :
    readEventKind field value = .ok kind ↔ value = EventKind.toBytes kind := by
  rw [← EventKind.ofBytes?_eq_some_iff, readEventKind]
  cases EventKind.ofBytes? value <;> simp

theorem readAuthorKey_eq_ok_iff {field : String} {value : List UInt8}
    {author : PublicKey} :
    (readBytes32 field value).map PublicKey.mk = .ok author ↔
      value = author.bytes := by
  rw [Except.map_eq_ok_iff]
  constructor
  · intro read
    rcases read with ⟨bytes, known, rfl⟩
    exact readBytes32_eq_ok_iff.mp known
  · intro same
    exact ⟨author.toBytes32, readBytes32_eq_ok_iff.mpr same, rfl⟩

/-- Texts are read together exactly when each value is the form of its text. -/
theorem readTexts_eq_ok_iff {field : String} {contents : List (List UInt8)}
    {texts : List String} :
    readTexts field contents = .ok texts ↔
      contents = texts.map Text.utf8Bytes := by
  induction contents generalizing texts with
  | nil => cases texts <;> simp [readTexts]
  | cons value rest ih =>
      simp only [readTexts, Except.bind_eq_ok_iff, Except.pure_eq_ok_iff,
        readText_eq_ok_iff, ih]
      constructor
      · intro read
        rcases read with ⟨text, rfl, others, rfl, rfl⟩
        rfl
      · intro same
        rcases List.map_eq_cons_iff.mp same.symm with ⟨text, others, rfl, rfl, rfl⟩
        exact ⟨text, rfl, others, rfl, rfl⟩

/-! ## Primary values -/

/-- Whether a value has the form of a primary value. -/
def Special.Admits (special : Special) (value : List UInt8) : Prop :=
  match special with
  | .key _ => ∃ bytes : Bytes32, value = bytes.bytes
  | .text _ => ∃ text, value = Text.utf8Bytes text

theorem Special.requireReadable_eq_ok_iff {special : Special}
    {value : List UInt8} :
    special.requireReadable value = .ok () ↔ special.Admits value := by
  cases special with
  | key name =>
      simp only [requireReadable, Admits, Except.map_eq_ok_iff, and_true,
        readBytes32_eq_ok_iff]
  | text name =>
      simp only [requireReadable, Admits, Except.map_eq_ok_iff, and_true,
        readText_eq_ok_iff]

theorem Special.requireWritable_of_admits {special : Special}
    {value : List UInt8} (admitted : special.Admits value) :
    special.requireWritable value = .ok () := by
  cases special with
  | key name => exact requireReadable_eq_ok_iff.mpr admitted
  | text name => rfl

/-! ## Components that occur at most once -/

/-- What a layout makes of the values of one tag: the first one is the component,
if the layout carries it. -/
def Presence.Selects (presence : Presence) (found : List (List UInt8))
    (selected : Option (List UInt8)) : Prop :=
  if presence = .ignored then selected = none
  else found.head? = selected ∧ (presence = .required → selected ≠ none)

/-- Whether a component that is there, or is not, agrees with the layout. -/
def Presence.Agrees (presence : Presence) (isPresent : Bool) : Prop :=
  (presence = .required → isPresent = true) ∧
    (presence = .ignored → isPresent = false)

/-- The values that are written for a component. -/
def Presence.kept (presence : Presence) (selected : Option (List UInt8)) :
    List (List UInt8) :=
  if presence = .ignored then [] else selected.toList

namespace Presence

variable {presence : Presence} {found : List (List UInt8)}
  {selected : Option (List UInt8)}

@[simp] theorem selects_ignored :
    Presence.ignored.Selects found selected ↔ selected = none := by
  simp [Selects]

@[simp] theorem selects_optional :
    Presence.optional.Selects found selected ↔ found.head? = selected := by
  simp [Selects]

@[simp] theorem selects_required_some {value : List UInt8} :
    Presence.required.Selects found (some value) ↔ found.head? = some value := by
  simp [Selects]

@[simp] theorem agrees_true : presence.Agrees true ↔ presence ≠ .ignored := by
  simp [Agrees]

@[simp] theorem agrees_false : presence.Agrees false ↔ presence ≠ .required := by
  simp [Agrees]

theorem Agrees.eq_none {α : Type} {component : Option α}
    (agreed : presence.Agrees component.isSome) (ignored : presence = .ignored) :
    component = none :=
  Option.not_isSome_iff_eq_none.mp (Bool.eq_false_iff.mp (agreed.2 ignored))

theorem Selects.agrees (chosen : presence.Selects found selected) :
    presence.Agrees selected.isSome := by
  rw [Selects] at chosen
  split at chosen
  · rename_i ignored
    rw [ignored, chosen]
    exact ⟨nofun, fun _ => rfl⟩
  · rename_i carried
    exact ⟨fun required => Option.isSome_iff_ne_none.mpr (chosen.2 required),
      fun ignored => absurd ignored carried⟩

theorem selects_kept (agreed : presence.Agrees selected.isSome) :
    presence.Selects (presence.kept selected) selected := by
  rw [Selects]
  split
  · rename_i ignored
    exact agreed.eq_none ignored
  · rename_i carried
    rw [kept, if_neg carried, Option.head?_toList]
    refine ⟨rfl, ?_⟩
    intro required
    exact Option.isSome_iff_ne_none.mp (agreed.1 required)

/-- What is written for a selected component is among the values it was selected
from. -/
theorem Selects.kept_sublist (chosen : presence.Selects found selected) :
    (presence.kept selected).Sublist found := by
  rw [Selects] at chosen
  rw [kept]
  split
  · exact List.nil_sublist found
  · rename_i carried
    rw [if_neg carried] at chosen
    rw [← chosen.1]
    cases found with
    | nil => exact List.Sublist.refl []
    | cons value rest => exact List.cons_sublist_cons.mpr (List.nil_sublist rest)

theorem requireIfNeeded_eq_ok_iff {field : String} {isPresent : Bool} :
    presence.requireIfNeeded field isPresent = .ok () ↔
      (presence = .required → isPresent = true) := by
  rw [requireIfNeeded]
  split <;> simp_all

theorem requireFew_eq_ok_iff {count : Nat} :
    presence.requireFew count = .ok () ↔
      (presence = .repeated → count ≤ maximumRelays) := by
  rw [requireFew]
  split <;> simp_all

theorem requireFew_eq_error_iff {count : Nat} {cause : Error} :
    presence.requireFew count = .error cause ↔
      (presence = .repeated ∧ maximumRelays < count) ∧
        cause = .tooManyRelays count := by
  rw [requireFew]
  split
  · rename_i many
    rw [and_iff_right many, Except.error.injEq, eq_comm]
  · rename_i few
    simp only [reduceCtorEq, few, false_and]

end Presence

namespace Layout

/-- Of the records of a tag a component depends on the first value alone. -/
theorem readSingle_eq {α : Type} (presence : Presence) (tag : Tag) (field : String)
    (read : List UInt8 → Except Error α) (records : List Record) :
    readSingle presence tag field read records =
      if presence = .ignored then .ok none
      else
        match (values records tag).head? with
        | some value => (read value).map some
        | none =>
            if presence = .required then .error (.missingField field) else .ok none := by
  rw [readSingle, ← Record.map_value_first?]
  cases Record.first? records tag <;> rfl

/-- A component is read exactly when it is the one that the layout selects, for
every reader whose values are what `write` makes of them. -/
theorem readSingle_eq_ok_iff {α : Type} {presence : Presence} {tag : Tag}
    {field : String} {read : List UInt8 → Except Error α}
    {write : α → List UInt8}
    (inverse : ∀ {value result}, read value = .ok result ↔ value = write result)
    {records : List Record} {selected : Option α} :
    readSingle presence tag field read records = .ok selected ↔
      presence.Selects (values records tag) (selected.map write) := by
  rw [readSingle_eq, Presence.Selects]
  split
  · simp [eq_comm]
  · cases (values records tag).head? with
    | some value =>
        simp only [Except.map_eq_ok_iff, inverse]
        constructor
        · intro read
          rcases read with ⟨result, same, rfl⟩
          exact ⟨congrArg some same, fun _ => Option.some_ne_none _⟩
        · intro chosen
          rcases Option.map_eq_some_iff.mp chosen.1.symm with ⟨result, rfl, same⟩
          exact ⟨result, same.symm, rfl⟩
    | none =>
        by_cases needed : presence = .required <;>
          cases selected <;> simp [needed]

/-! ## Payloads -/

/-- Records from which a layout takes a payload. -/
structure Describes (layout : Layout) (records : List Record)
    (payload : Payload) : Prop where
  special_first : (values records .special).head? = some payload.special
  special_form : layout.special.Admits payload.special
  relays_eq : (layout.relayValues records).take maximumRelays =
    payload.relays.map Text.utf8Bytes
  author_selected : layout.author.Selects (values records .author)
    (payload.author.map fun author => author.bytes)
  kind_selected : layout.kind.Selects (values records .kind)
    (payload.kind.map EventKind.toBytes)

/-- Payloads with the components that a layout asks for and no others. -/
structure Fits (layout : Layout) (payload : Payload) : Prop where
  special_form : layout.special.Admits payload.special
  relays_few : payload.relays.length ≤
    if layout.relay = .ignored then 0 else maximumRelays
  author_agrees : layout.author.Agrees payload.author.isSome
  kind_agrees : layout.kind.Agrees payload.kind.isSome

variable {layout : Layout} {records : List Record} {payload : Payload}

/-- Of the special records the primary value depends on the first value alone. -/
theorem readSpecial_eq (layout : Layout) (records : List Record) :
    layout.readSpecial records =
      match (values records .special).head? with
      | none => .error (.missingField layout.special.name)
      | some value => layout.special.requireReadable value >>= fun _ => pure value := by
  rw [readSpecial, ← Record.map_value_first?]
  cases Record.first? records .special <;> rfl

theorem readSpecial_eq_ok_iff {special : List UInt8} :
    layout.readSpecial records = .ok special ↔
      (values records .special).head? = some special ∧
        layout.special.Admits special := by
  rw [readSpecial_eq]
  cases (values records .special).head? with
  | none => simp
  | some value =>
      simp only [Except.bind_eq_ok_iff, Except.pure_eq_ok_iff,
        Except.exists_unit_iff, Special.requireReadable_eq_ok_iff,
        Option.some.injEq]
      constructor
      · intro read
        rcases read with ⟨admitted, rfl⟩
        exact ⟨rfl, admitted⟩
      · intro described
        rcases described with ⟨rfl, admitted⟩
        exact ⟨admitted, rfl⟩

theorem relayValues_of_carried (carried : layout.relay ≠ .ignored) :
    layout.relayValues records = values records .relay :=
  if_neg carried

/-- The relays are the texts of the first ten values. -/
theorem outcome_readRelays (layout : Layout) (records : List Record) :
    (layout.readRelays records).outcome =
      readTexts "relay" ((layout.relayValues records).take maximumRelays) := by
  rw [readRelays, Traced.outcome_bind, Traced.outcome_ofExcept]
  cases readTexts "relay" ((layout.relayValues records).take maximumRelays) <;> rfl

theorem outcome_readRelays_eq_ok_iff {relays : List String} :
    (layout.readRelays records).outcome = .ok relays ↔
      (layout.relayValues records).take maximumRelays =
        relays.map Text.utf8Bytes := by
  rw [outcome_readRelays, readTexts_eq_ok_iff]

/-- A layout takes a payload out of records exactly when they describe it. -/
theorem outcome_ofRecords_eq_ok_iff :
    (layout.ofRecords records).outcome = .ok payload ↔
      layout.Describes records payload := by
  simp only [ofRecords, Traced.outcome_bind, Traced.outcome_ofExcept,
    Traced.outcome_pure, Except.bind_eq_ok_iff, Except.ok.injEq,
    readSpecial_eq_ok_iff, outcome_readRelays_eq_ok_iff, readAuthor, readKind,
    readSingle_eq_ok_iff readAuthorKey_eq_ok_iff,
    readSingle_eq_ok_iff readEventKind_eq_ok_iff]
  constructor
  · intro read
    rcases read with ⟨special, ⟨first, admitted⟩, relays, taken, author, authorChosen,
      kind, kindChosen, rfl⟩
    exact ⟨first, admitted, taken, authorChosen, kindChosen⟩
  · intro described
    rcases payload with ⟨special, relays, author, kind⟩
    exact ⟨special, ⟨described.special_first, described.special_form⟩, relays,
      described.relays_eq, author, described.author_selected, kind,
      described.kind_selected, rfl⟩

theorem Fits.relays_eq_nil (fits : layout.Fits payload)
    (ignored : layout.relay = .ignored) : payload.relays = [] := by
  have atMost := fits.relays_few
  rw [if_pos ignored] at atMost
  exact List.length_eq_zero_iff.mp (Nat.le_zero.mp atMost)

theorem Fits.relays_le (fits : layout.Fits payload)
    (repeated : layout.relay = .repeated) :
    payload.relays.length ≤ maximumRelays := by
  have few := fits.relays_few
  rw [if_neg (by rw [repeated]; exact nofun)] at few
  exact few

/-- What is taken out of records has what the layout asks for. -/
theorem Describes.fits (described : layout.Describes records payload) :
    layout.Fits payload := by
  refine ⟨described.special_form, ?_, ?_, ?_⟩
  · have lengths := congrArg List.length described.relays_eq
    rw [List.length_take, List.length_map, relayValues] at lengths
    split at lengths <;> rename_i presence
    · simp [presence, ← lengths]
    · rw [if_neg presence, ← lengths]
      exact Nat.min_le_left _ _
  · simpa using described.author_selected.agrees
  · simpa using described.kind_selected.agrees

/-! ## Writing -/

theorem values_componentRecords (presence : Presence) (written tag : Tag)
    (contents : List (List UInt8)) :
    values (presence.records written contents) tag =
      if presence = .ignored then []
      else if written = tag then contents else [] := by
  rw [Presence.records]
  split
  · rfl
  · exact Record.values_map_mk written tag contents

/-- The records of a payload have the values of its components, each under its
tag. -/
theorem values_records (layout : Layout) (payload : Payload) (tag : Tag) :
    values (layout.records payload) tag =
      match tag with
      | .special => [payload.special]
      | .relay =>
          if layout.relay = .ignored then []
          else payload.relays.map Text.utf8Bytes
      | .author => layout.author.kept
          (payload.author.map fun author => author.bytes)
      | .kind => layout.kind.kept (payload.kind.map EventKind.toBytes) := by
  rw [records, Record.values_cons, Record.values_append, Record.values_append,
    values_componentRecords, values_componentRecords, values_componentRecords]
  cases tag <;> simp [Presence.kept, Option.toList_map]

/-- The records of a payload describe it. -/
theorem describes_records (fits : layout.Fits payload) :
    layout.Describes (layout.records payload) payload where
  special_first := by rw [values_records]; rfl
  special_form := fits.special_form
  relays_eq := by
    change (if layout.relay = .ignored then []
      else values (layout.records payload) .relay).take maximumRelays = _
    rw [values_records]
    by_cases ignored : layout.relay = .ignored
    · rw [fits.relays_eq_nil ignored, if_pos ignored]
      rfl
    · have few := fits.relays_few
      rw [if_neg ignored] at few
      simp only [if_neg ignored]
      apply List.take_of_length_le
      rwa [List.length_map]
  author_selected := by
    rw [values_records]
    exact Presence.selects_kept (by simpa using fits.author_agrees)
  kind_selected := by
    rw [values_records]
    exact Presence.selects_kept (by simpa using fits.kind_agrees)

/-- The records written for a payload are among any that describe it. -/
theorem Describes.records_subperm (described : layout.Describes records payload) :
    (layout.records payload).Subperm records := by
  apply Record.subperm_of_values_sublist
  intro tag
  rw [values_records]
  cases tag with
  | special =>
      exact List.singleton_sublist.mpr
        (List.mem_of_head? described.special_first)
  | relay =>
      show (if layout.relay = .ignored then []
        else payload.relays.map Text.utf8Bytes).Sublist _
      rw [← described.relays_eq, relayValues]
      split
      · exact List.nil_sublist _
      · exact List.take_sublist _ _
  | author => exact described.author_selected.kept_sublist
  | kind => exact described.kind_selected.kept_sublist

theorem length_componentRecords_le (presence : Presence) (tag : Tag)
    (contents : List (List UInt8)) :
    (presence.records tag contents).length ≤ contents.length := by
  rw [Presence.records]
  split
  · exact Nat.zero_le _
  · exact Nat.le_of_eq (List.length_map _)

/-- A payload has few enough records to be read back. -/
theorem length_records_le (fits : layout.Fits payload) :
    (layout.records payload).length ≤ Record.maximumCount := by
  have few : payload.relays.length ≤ maximumRelays := by
    have limited := fits.relays_few
    split at limited
    · exact Nat.le_trans limited (Nat.zero_le _)
    · exact limited
  have relays := length_componentRecords_le layout.relay .relay
    (payload.relays.map Text.utf8Bytes)
  have author := length_componentRecords_le layout.author .author
    (payload.author.toList.map fun author => author.bytes)
  have kind := length_componentRecords_le layout.kind .kind
    (payload.kind.toList.map EventKind.toBytes)
  rw [List.length_map] at relays author kind
  have oneAuthor : payload.author.toList.length ≤ 1 := Option.length_toList_le
  have oneKind : payload.kind.toList.length ≤ 1 := Option.length_toList_le
  simp only [records, List.length_cons, List.length_append, Record.maximumCount]
  rw [maximumRelays] at few
  omega

/-- Writing checks the payload and writes its records. -/
theorem encode_eq_ok_iff_checked {bytes : List UInt8} :
    layout.encode payload = .ok bytes ↔
      layout.special.requireWritable payload.special = .ok () ∧
        layout.author.requireIfNeeded "author" payload.author.isSome = .ok () ∧
        layout.kind.requireIfNeeded "kind" payload.kind.isSome = .ok () ∧
        layout.relay.requireFew payload.relays.length = .ok () ∧
        (∀ record ∈ layout.records payload, record.value.length ≤ 255) ∧
        bytes = Record.bytesOfAll (layout.records payload) := by
  simp only [encode, Except.bind_eq_ok_iff, Except.exists_unit_iff,
    Except.mapError_eq_ok_iff, Record.writeAll_eq_ok_iff]

/-- Writing a payload that fits is writing its records. -/
theorem encode_eq_ok_iff (fits : layout.Fits payload) {bytes : List UInt8} :
    layout.encode payload = .ok bytes ↔
      (∀ record ∈ layout.records payload, record.value.length ≤ 255) ∧
        bytes = Record.bytesOfAll (layout.records payload) := by
  have special := Special.requireWritable_of_admits fits.special_form
  have author : layout.author.requireIfNeeded "author" _ = .ok () :=
    Presence.requireIfNeeded_eq_ok_iff.mpr fits.author_agrees.1
  have kind : layout.kind.requireIfNeeded "kind" _ = .ok () :=
    Presence.requireIfNeeded_eq_ok_iff.mpr fits.kind_agrees.1
  have relays : layout.relay.requireFew _ = .ok () :=
    Presence.requireFew_eq_ok_iff.mpr fits.relays_le
  simp only [encode_eq_ok_iff_checked, special, author, kind, relays, true_and]

/-- A payload with the components that the layout asks for is written unless it has too
many relays or a value that is too long. -/
theorem encode_of_agrees (special : layout.special.Admits payload.special)
    (author : layout.author.Agrees payload.author.isSome)
    (kind : layout.kind.Agrees payload.kind.isSome) :
    layout.encode payload =
      layout.relay.requireFew payload.relays.length >>= fun _ =>
        (Record.writeAll (layout.records payload)).mapError .record := by
  rw [encode, Special.requireWritable_of_admits special,
    Presence.requireIfNeeded_eq_ok_iff.mpr author.1,
    Presence.requireIfNeeded_eq_ok_iff.mpr kind.1]
  rfl

/-- A layout with repeated relays is written with few of them only. -/
theorem relays_few_of_encode {bytes : List UInt8}
    (repeated : layout.relay = .repeated)
    (written : layout.encode payload = .ok bytes) :
    payload.relays.length ≤ maximumRelays := by
  rcases encode_eq_ok_iff_checked.mp written with ⟨-, -, -, few, -⟩
  exact Presence.requireFew_eq_ok_iff.mp few repeated

end Layout

end NostrEntities.Entity
