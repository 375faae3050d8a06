import NostrEntities.HexForm
import NostrEntities.Proofs.Entity.RoundTrip
import NostrEntities.Proofs.Hex

/-!
# Normal forms

A kind uses some members of a form and passes over the others, and does not see the
case of digits. The normal form of a form for a kind has nothing else left to choose: a
form describes an entity exactly when its normal form is the form of the entity. So a
form that is written is read back as its normal form.
-/

namespace NostrEntities.HexForm

variable {form : HexForm}

/-- The members that a kind uses, with ids and keys in lower case. A coordinate without
an identifier has the empty one. -/
def normalized (form : HexForm) : Kind → HexForm
  | .bare _ => { hex := form.hex.map String.toLower }
  | .tagged .nprofile =>
      { hex := form.hex.map String.toLower, relays := form.relays }
  | .tagged .nevent =>
      { hex := form.hex.map String.toLower
        author := form.author.map String.toLower
        kind := form.kind
        relays := form.relays }
  | .tagged .naddr =>
      { author := form.author.map String.toLower
        kind := form.kind
        identifier := some (form.identifier.getD "")
        relays := form.relays }
  | .tagged .nrelay => { identifier := form.identifier }

/-! ## Members -/

theorem require_eq_ok_iff {α : Type} {field : String} {member : Option α}
    {value : α} : require field member = .ok value ↔ member = some value := by
  cases member <;> simp [require]

theorem readHex_eq_ok_iff {text : String} {value : Bytes32} :
    readHex text = .ok value ↔ text.toLower = value.toHex := by
  rw [readHex, Except.mapError_eq_ok_iff, Bytes32.ofHex_eq_ok_iff]

theorem requiredHex_eq_ok_iff {value : Bytes32} :
    form.requiredHex = .ok value ↔
      form.hex.map String.toLower = some value.toHex := by
  simp only [requiredHex, Except.bind_eq_ok_iff, require_eq_ok_iff,
    readHex_eq_ok_iff, Option.map_eq_some_iff]

theorem requiredAuthor_eq_ok_iff {author : PublicKey} :
    form.requiredAuthor = .ok author ↔
      form.author.map String.toLower = some author.toHex := by
  simp only [requiredAuthor, Except.bind_eq_ok_iff, Except.pure_eq_ok_iff,
    require_eq_ok_iff, readHex_eq_ok_iff, Option.map_eq_some_iff]
  constructor
  · rintro ⟨text, present, bytes, read, rfl⟩
    exact ⟨text, present, read⟩
  · rintro ⟨text, present, read⟩
    exact ⟨text, present, author.toBytes32, read, rfl⟩

theorem optionalAuthor_eq_ok_iff {author : Option PublicKey} :
    form.optionalAuthor = .ok author ↔
      form.author.map String.toLower =
        author.map fun author => author.toHex := by
  rw [optionalAuthor]
  cases form.author with
  | none => cases author <;> simp
  | some text =>
      simp only [Except.bind_eq_ok_iff, Except.pure_eq_ok_iff, readHex_eq_ok_iff]
      cases author with
      | none => simp
      | some key =>
          simp only [Option.map_some, Option.some.injEq]
          constructor
          · rintro ⟨bytes, read, rfl⟩
            exact read
          · intro read
            exact ⟨key.toBytes32, read, rfl⟩

/-! ## Entities -/

/-- A form describes the entities of the kind whose form is its normal form. -/
theorem toEntity_eq_ok_iff {kind : Kind} {entity : Entity} :
    form.toEntity kind = .ok entity ↔
      entity.kind = kind ∧ ofEntity entity = form.normalized kind := by
  constructor
  · intro described
    cases kind with
    | bare kind =>
        simp only [toEntity, Except.bind_eq_ok_iff, Except.pure_eq_ok_iff,
          requiredHex_eq_ok_iff] at described
        rcases described with ⟨bytes, hex, rfl⟩
        refine ⟨Entity.kind_ofBytes32 kind bytes, ?_⟩
        rw [normalized, hex]
        cases kind <;> rfl
    | tagged kind =>
        cases kind with
        | nprofile =>
            simp only [toEntity, Except.bind_eq_ok_iff, Except.pure_eq_ok_iff,
              requiredHex_eq_ok_iff] at described
            rcases described with ⟨bytes, hex, rfl⟩
            rw [normalized, hex]
            exact ⟨rfl, rfl⟩
        | nevent =>
            simp only [toEntity, Except.bind_eq_ok_iff, Except.pure_eq_ok_iff,
              requiredHex_eq_ok_iff, optionalAuthor_eq_ok_iff] at described
            rcases described with ⟨bytes, hex, author, authorHex, rfl⟩
            rw [normalized, hex, authorHex]
            exact ⟨rfl, rfl⟩
        | naddr =>
            simp only [toEntity, Except.bind_eq_ok_iff, Except.pure_eq_ok_iff,
              require_eq_ok_iff, requiredAuthor_eq_ok_iff] at described
            rcases described with ⟨kind, present, author, authorHex, rfl⟩
            rw [normalized, authorHex, present]
            exact ⟨rfl, rfl⟩
        | nrelay =>
            simp only [toEntity, Except.bind_eq_ok_iff, Except.pure_eq_ok_iff,
              require_eq_ok_iff] at described
            rcases described with ⟨url, present, rfl⟩
            rw [normalized, present]
            exact ⟨rfl, rfl⟩
  · intro normal
    rcases normal with ⟨rfl, same⟩
    -- Each member of the form of the entity says what its reader returns.
    cases entity with
    | note value | npub value | nsec value =>
        have hex := requiredHex_eq_ok_iff.mpr (congrArg HexForm.hex same).symm
        rw [Entity.kind, toEntity, hex]
        rfl
    | nprofile pointer =>
        have hex := requiredHex_eq_ok_iff.mpr (congrArg HexForm.hex same).symm
        have relays : pointer.relays = form.relays := congrArg HexForm.relays same
        rw [Entity.kind, toEntity, hex, ← relays]
        rfl
    | nevent pointer =>
        have hex := requiredHex_eq_ok_iff.mpr (congrArg HexForm.hex same).symm
        have author :=
          optionalAuthor_eq_ok_iff.mpr (congrArg HexForm.author same).symm
        have kind : pointer.kind = form.kind := congrArg HexForm.kind same
        have relays : pointer.relays = form.relays := congrArg HexForm.relays same
        rw [Entity.kind, toEntity, hex, Except.ok_bind, author, ← kind, ← relays]
        rfl
    | naddr coordinate =>
        have author :=
          requiredAuthor_eq_ok_iff.mpr (congrArg HexForm.author same).symm
        have kind : some coordinate.kind = form.kind := congrArg HexForm.kind same
        have identifier : coordinate.identifier = form.identifier.getD "" :=
          Option.some.inj (congrArg HexForm.identifier same)
        have relays : coordinate.relays = form.relays := congrArg HexForm.relays same
        rw [Entity.kind, toEntity, ← kind, author, ← identifier, ← relays]
        rfl
    | nrelay url =>
        have present : some url = form.identifier := congrArg HexForm.identifier same
        rw [Entity.kind, toEntity, ← present]
        rfl

/-- The form of an entity is its own normal form. -/
theorem normalized_ofEntity (entity : Entity) :
    (ofEntity entity).normalized entity.kind = ofEntity entity := by
  have hex : ∀ value : Bytes32,
      (some value.toHex).map String.toLower = some value.toHex :=
    fun value => congrArg some value.toLower_toHex
  cases entity with
  | note id | npub key | nsec key =>
      simp only [ofEntity, note, Entity.kind, normalized, hex]
  | nprofile pointer =>
      simp only [ofEntity, Entity.kind, normalized, hex]
  | nevent pointer =>
      have author : (pointer.author.map fun author => author.toHex).map
          String.toLower = pointer.author.map fun author => author.toHex := by
        cases pointer.author with
        | none => rfl
        | some author => exact hex author.toBytes32
      simp only [ofEntity, nevent, Entity.kind, normalized, hex, author]
  | naddr coordinate =>
      simp only [ofEntity, naddr, Entity.kind, normalized, hex, Option.getD_some]
  | nrelay url => rfl

/-- Every entity is described by its form: the members of the form, read for the kind of
the entity, give the whole entity back, whether it has a text or not. -/
theorem toEntity_ofEntity (entity : Entity) :
    (ofEntity entity).toEntity entity.kind = .ok entity := by
  rw [toEntity_eq_ok_iff, normalized_ofEntity]
  exact ⟨rfl, rfl⟩

/-! ## Texts -/

/-- What is written for a form is the text of an entity whose form is the normal form. -/
theorem exists_entity_of_encode {kind : Kind} {text : String}
    (written : encode kind form = .ok text) :
    ∃ entity, Entity.encode entity = .ok text ∧ entity.kind = kind ∧
      ofEntity entity = form.normalized kind := by
  simp only [encode, Except.bind_eq_ok_iff, Except.mapError_eq_ok_iff] at written
  rcases written with ⟨entity, described, written⟩
  exact ⟨entity, written, toEntity_eq_ok_iff.mp described⟩

/-- The text of an entity is read as its kind and its form. -/
theorem decode_of_encode_entity {entity : Entity} {text : String}
    (written : Entity.encode entity = .ok text) :
    decode text = .ok (entity.kind, ofEntity entity) := by
  rw [decode, Entity.ofText_of_encode written]
  rfl

/-- A form is written as the text of the entity whose form is its normal form. -/
theorem encode_eq_of_normalized {entity : Entity}
    (normal : ofEntity entity = form.normalized entity.kind) :
    encode entity.kind form = (Entity.encode entity).mapError .entity := by
  rw [encode, toEntity_eq_ok_iff.mpr ⟨rfl, normal⟩, Except.ok_bind]

/-- A text is read like every other one in a single case with the same letters. -/
theorem decode_of_same_letters {text other : String} {kind : Kind}
    (read : decode text = .ok (kind, form))
    (same : Text.lowered other.toList = Text.lowered text.toList)
    (single : Text.isMixedCase other.toList = false) : decode other = .ok (kind, form) := by
  simp only [decode, Except.bind_eq_ok_iff, Except.mapError_eq_ok_iff] at read ⊢
  rcases read with ⟨entity, read, described⟩
  exact ⟨entity, Entity.ofText_of_same_letters read same single, described⟩

/-- A form that is written is read back as the kind and the normal form. -/
theorem decode_eq_normalized (kind : Kind) (form : HexForm) (text : String)
    (written : encode kind form = .ok text) :
    decode text = .ok (kind, form.normalized kind) := by
  rcases exists_entity_of_encode written with ⟨entity, encoded, sameKind, sameForm⟩
  rw [decode_of_encode_entity encoded, sameKind, sameForm]

/-- A form of a coordinate with a member that coordinates do not use, an author in mixed
case, and no identifier. -/
def looseForm : HexForm where
  hex := some "passed over"
  author := some "0011223344556677889900AABBCCDDEEFFaabbccddeeff001122334455667788"
  kind := some 30023
  relays := ["wss://r.x.com", ""]

/-- The coordinate that the form describes. -/
def looseCoordinate : Coordinate where
  kind := 30023
  publicKey := {
    bytes := [
      0x00, 0x11, 0x22, 0x33, 0x44, 0x55, 0x66, 0x77, 0x88, 0x99, 0x00,
      0xaa, 0xbb, 0xcc, 0xdd, 0xee, 0xff, 0xaa, 0xbb, 0xcc, 0xdd, 0xee, 0xff,
      0x00, 0x11, 0x22, 0x33, 0x44, 0x55, 0x66, 0x77, 0x88]
    length_bytes := rfl }
  identifier := ""
  relays := ["wss://r.x.com", ""]

/-- The text of the coordinate. -/
def looseText : String :=
  "naddr1qqqqzrthwden5te0wgh8stnrdakszqqzyqqpzg3ng32kvaugnyq24w7vmhh0l24" ++
    "menw7alcqzy3rx3z4vemcsqcyqqq823cvshlu4"

theorem decode_eq_normalized_looseText :
    encode (.tagged .naddr) looseForm = .ok looseText ∧
      decode looseText = .ok (.tagged .naddr, {
        author := some
          "0011223344556677889900aabbccddeeffaabbccddeeff001122334455667788"
        kind := some 30023
        identifier := some ""
        relays := ["wss://r.x.com", ""] }) := by
  have normal : looseForm.normalized (.tagged .naddr) = {
      author := some
        "0011223344556677889900aabbccddeeffaabbccddeeff001122334455667788"
      kind := some 30023
      identifier := some ""
      relays := ["wss://r.x.com", ""] } := by
    cbv
  have described :
      looseForm.toEntity (.tagged .naddr) = .ok (.naddr looseCoordinate) := by
    rw [toEntity_eq_ok_iff, normal]
    exact ⟨rfl, by cbv⟩
  have text : Entity.encode (.naddr looseCoordinate) = .ok looseText := by
    cbv
  have written : encode (.tagged .naddr) looseForm = .ok looseText := by
    rw [encode, described, Except.ok_bind, text]
    rfl
  rw [← normal]
  exact ⟨written, decode_eq_normalized _ _ _ written⟩

end NostrEntities.HexForm
