import NostrEntities.HexForm
import NostrEntities.Proofs.Entity.Bare
import NostrEntities.Proofs.Key.Curve

/-!
# Texts of keys on the curve

A key on the curve is read like a plain key and checked afterwards, by a library of which
only two things are asked: that it accepts the valid keys and no others, and that it gives
the bytes back that it was given. So its texts are the texts of those plain keys that are
valid, what is wrong with a text is said in the same way, and a key that is not valid fails
for a reason of its own. As a plain key has one text up to letter case, a key on the curve
is written as the text it was read from.
-/

namespace NostrEntities

/-! ## Texts of plain keys -/

/-- A value of one kind is read where the entity that it makes is. -/
theorem Entity.ofTextAs_eq_ok_iff {α : Type} {expected : Kind}
    {value? : Entity → Option α} {make : α → Entity}
    (inverse : ∀ entity value, value? entity = some value ↔ entity = make value)
    {text : String} {value : α} :
    ofTextAs expected value? text = .ok value ↔ ofText text = .ok (make value) := by
  simp only [ofTextAs, Except.bind_eq_ok_iff]
  constructor
  · rintro ⟨entity, read, taken⟩
    split at taken
    · rename_i other found
      rw [← Except.pure_eq_ok_iff.mp taken, ← (inverse entity other).mp found]
      exact read
    · cases taken
  · intro read
    refine ⟨make value, read, ?_⟩
    rw [(inverse _ value).mpr rfl]
    rfl

theorem PublicKey.ofText_eq_ok_iff {text : String} {key : PublicKey} :
    ofText text = .ok key ↔ Entity.ofText text = .ok (.npub key) := by
  refine Entity.ofTextAs_eq_ok_iff fun entity value => ?_
  cases entity <;> simp

theorem SecretKey.ofText_eq_ok_iff {text : String} {key : SecretKey} :
    ofText text = .ok key ↔ Entity.ofText text = .ok (.nsec key) := by
  refine Entity.ofTextAs_eq_ok_iff fun entity value => ?_
  cases entity <;> simp

/-- A text that is read as a bare entity is the text that is written for it, up to letter
case. -/
theorem Entity.encode_of_ofText (kind : BareKind) (bytes : Bytes32) {text : String}
    (read : ofText text = .ok (ofBytes32 kind bytes)) :
    encode (ofBytes32 kind bytes) = .ok text.toLower :=
  (outcome_decode_eq_ofBytes32_iff.mp read).2

theorem PublicKey.toText_of_ofText {text : String} {key : PublicKey}
    (read : ofText text = .ok key) : key.toText = .ok text.toLower :=
  Entity.encode_of_ofText .npub key.toBytes32 (ofText_eq_ok_iff.mp read)

theorem SecretKey.toText_of_ofText {text : String} {key : SecretKey}
    (read : ofText text = .ok key) : key.toText = .ok text.toLower :=
  Entity.encode_of_ofText .nsec key.toBytes32 (ofText_eq_ok_iff.mp read)

/-! ## Checked keys -/

/-- Keys that pass a check, beside the plain keys: which texts are read as one, how it is
written again, and the two ways in which a text fails. -/
structure ReadsChecked {Plain Checked : Type} (plain : String → Except Entity.Error Plain)
    (Valid : Plain → Prop) (refusal : Curve.Error) (forget : Checked → Plain)
    (read : String → Except HexForm.Error Checked)
    (write : Checked → Except HexForm.Error String) : Prop where
  /-- The texts of the plain keys that are valid are read, and no others. -/
  accepts : ∀ text key,
    (∃ checked, read text = .ok checked ∧ forget checked = key) ↔
      plain text = .ok key ∧ Valid key
  /-- The key is written as the text in lower case. -/
  rewrites : ∀ text checked,
    read text = .ok checked → write checked = .ok text.toLower
  /-- What is wrong with the text of a plain key is passed on as it is. -/
  passesOn : ∀ text cause,
    read text = .error (.entity cause) ↔ plain text = .error cause
  /-- The text of a plain key that is not valid is refused for that reason. -/
  refuses : ∀ text cause,
    read text = .error (.curve cause) ↔
      cause = refusal ∧ ∃ key, plain text = .ok key ∧ ¬Valid key

/-- A library of keys on the curve, for one kind of plain keys. -/
structure KeyLibrary (Plain Checked : Type) (Valid : Plain → Prop)
    (refusal : Curve.Error) where
  /-- Check a plain key. -/
  fromBytes : Plain → Except Curve.Error Checked
  /-- The plain key of a key that was checked. -/
  toBytes : Checked → Plain
  /-- The keys that are refused are the ones that are not valid, for that reason. -/
  fromBytes_eq_error_iff : ∀ key cause,
    fromBytes key = .error cause ↔ cause = refusal ∧ ¬Valid key
  /-- A key is given back as it came. -/
  toBytes_of_fromBytes : ∀ key checked, fromBytes key = .ok checked → toBytes checked = key

namespace KeyLibrary

variable {Plain Checked : Type} {Valid : Plain → Prop} {refusal : Curve.Error}

/-- Read a plain key and check it. -/
def ofText (library : KeyLibrary Plain Checked Valid refusal)
    (plain : String → Except Entity.Error Plain) (text : String) :
    Except HexForm.Error Checked := do
  let key ← (plain text).mapError .entity
  (library.fromBytes key).mapError .curve

/-- Write the plain key of a key that was checked. -/
def toText (library : KeyLibrary Plain Checked Valid refusal)
    (write : Plain → Except Entity.Error String) (checked : Checked) :
    Except HexForm.Error String :=
  (write (library.toBytes checked)).mapError .entity

theorem exists_fromBytes_iff (library : KeyLibrary Plain Checked Valid refusal)
    (key : Plain) :
    (∃ checked, library.fromBytes key = .ok checked) ↔ Valid key := by
  simp [Except.exists_eq_ok_iff, library.fromBytes_eq_error_iff]

/-- Keys of any library are read and written as valid plain keys, if a plain key is written
as the text that it is read from. -/
theorem readsChecked (library : KeyLibrary Plain Checked Valid refusal)
    {plain : String → Except Entity.Error Plain}
    {write : Plain → Except Entity.Error String}
    (rewritten : ∀ text key, plain text = .ok key → write key = .ok text.toLower) :
    ReadsChecked plain Valid refusal library.toBytes (library.ofText plain)
      (library.toText write) := by
  have ofText_eq_ok_iff : ∀ text checked, library.ofText plain text = .ok checked ↔
      ∃ key, plain text = .ok key ∧ library.fromBytes key = .ok checked := by
    intro text checked
    simp only [ofText, Except.bind_eq_ok_iff, Except.mapError_eq_ok_iff]
  constructor
  case accepts =>
    intro text key
    simp only [ofText_eq_ok_iff]
    constructor
    · rintro ⟨checked, ⟨plainKey, read, accepted⟩, rfl⟩
      rw [library.toBytes_of_fromBytes plainKey checked accepted]
      exact ⟨read, (library.exists_fromBytes_iff plainKey).mp ⟨checked, accepted⟩⟩
    · rintro ⟨read, valid⟩
      obtain ⟨checked, accepted⟩ := (library.exists_fromBytes_iff key).mpr valid
      exact ⟨checked, ⟨key, read, accepted⟩,
        library.toBytes_of_fromBytes key checked accepted⟩
  case rewrites =>
    intro text checked succeeded
    obtain ⟨key, read, accepted⟩ := (ofText_eq_ok_iff text checked).mp succeeded
    rw [toText, library.toBytes_of_fromBytes key checked accepted, rewritten text key read]
    rfl
  case passesOn =>
    intro text cause
    simp [ofText, Except.bind_eq_error_iff, Except.mapError_eq_error_iff]
  case refuses =>
    intro text cause
    simp only [ofText, Except.bind_eq_error_iff, Except.mapError_eq_error_iff,
      Except.mapError_eq_ok_iff, library.fromBytes_eq_error_iff,
      HexForm.Error.curve.injEq, reduceCtorEq, and_false, exists_false, false_or]
    constructor
    · rintro ⟨key, read, _, ⟨rfl, invalid⟩, rfl⟩
      exact ⟨rfl, key, read, invalid⟩
    · rintro ⟨rfl, key, read, invalid⟩
      exact ⟨key, read, _, ⟨rfl, invalid⟩, rfl⟩

end KeyLibrary

/-- Public keys are checked by looking for a point with the first coordinate. -/
def PublicKey.library : KeyLibrary PublicKey CurvePublicKey
    (fun key => Curve.IsAbscissa key.toNat) .invalidPublicKey where
  fromBytes := PublicKey.toCurve
  toBytes := CurvePublicKey.key
  fromBytes_eq_error_iff key cause := by
    rw [PublicKey.toCurve, Except.dite_eq_error_iff, PublicKey.isOnCurve,
      Curve.isAbscissa_iff]
  toBytes_of_fromBytes key checked accepted := by
    obtain ⟨onCurve, rfl⟩ := Except.dite_eq_ok_iff.mp accepted
    rfl

/-- Secret keys are checked by comparing them with the order of the group. -/
def SecretKey.library : KeyLibrary SecretKey CurveSecretKey
    (fun key => 1 ≤ key.toNat ∧ key.toNat < Curve.groupOrder) .invalidSecretKey where
  fromBytes := SecretKey.toCurve
  toBytes := CurveSecretKey.key
  fromBytes_eq_error_iff key cause := by
    rw [SecretKey.toCurve, Except.dite_eq_error_iff, SecretKey.isUsable, Curve.isScalar_iff]
  toBytes_of_fromBytes key checked accepted := by
    obtain ⟨usable, rfl⟩ := Except.dite_eq_ok_iff.mp accepted
    rfl

/-- Public keys on the curve are read and written as the public keys that are the first
coordinate of a point, secret keys on the curve as the secret keys between one and the
order of the group, whatever library checks them. -/
theorem readsChecked_publicKey_and_secretKey :
    ReadsChecked PublicKey.ofText (fun key => Curve.IsAbscissa key.toNat)
        .invalidPublicKey CurvePublicKey.key CurvePublicKey.ofText
        CurvePublicKey.toText ∧
      ReadsChecked SecretKey.ofText
        (fun key => 1 ≤ key.toNat ∧ key.toNat < Curve.groupOrder)
        .invalidSecretKey CurveSecretKey.key CurveSecretKey.ofText
        CurveSecretKey.toText ∧
      (∀ (Checked : Type) (library : KeyLibrary PublicKey Checked
          (fun key => Curve.IsAbscissa key.toNat) .invalidPublicKey),
        ReadsChecked PublicKey.ofText (fun key => Curve.IsAbscissa key.toNat)
          .invalidPublicKey library.toBytes (library.ofText PublicKey.ofText)
          (library.toText PublicKey.toText)) ∧
      ∀ (Checked : Type) (library : KeyLibrary SecretKey Checked
          (fun key => 1 ≤ key.toNat ∧ key.toNat < Curve.groupOrder) .invalidSecretKey),
        ReadsChecked SecretKey.ofText
          (fun key => 1 ≤ key.toNat ∧ key.toNat < Curve.groupOrder)
          .invalidSecretKey library.toBytes (library.ofText SecretKey.ofText)
          (library.toText SecretKey.toText) := by
  have points : ∀ text key, PublicKey.ofText text = .ok key →
      key.toText = .ok text.toLower := fun _ _ => PublicKey.toText_of_ofText
  have scalars : ∀ text key, SecretKey.ofText text = .ok key →
      key.toText = .ok text.toLower := fun _ _ => SecretKey.toText_of_ofText
  exact ⟨PublicKey.library.readsChecked points, SecretKey.library.readsChecked scalars,
    fun _ library => library.readsChecked points,
    fun _ library => library.readsChecked scalars⟩

/-- A public key that is the first coordinate of a point. -/
def pointKey : PublicKey where
  bytes := [
    0x3b, 0xf0, 0xc6, 0x3f, 0xcb, 0x93, 0x46, 0x34, 0x07, 0xaf, 0x97, 0xa5, 0xe5, 0xee,
    0x64, 0xfa, 0x88, 0x3d, 0x10, 0x7e, 0xf9, 0xe5, 0x58, 0x47, 0x2c, 0x4e, 0xb9, 0xaa,
    0xae, 0xfa, 0x45, 0x9d]
  length_bytes := rfl

/-- Its text in upper case. -/
def pointText : String :=
  "NPUB180CVV07TJDRRGPA0J7J7TMNYL2YR6YR7L8J4S3EVF6U64TH6GKWSYJH6W6"

/-- The text of a secret key of zeros. -/
def zeroSecretText : String :=
  "nsec1qqqqqqqqqqqqqqqqqqqqqqqqqqqqqqqqqqqqqqqqqqqqqqqqqqqqwkhnav"

theorem readsChecked_pointText_and_zeroSecretText :
    (∃ checked, CurvePublicKey.ofText pointText = .ok checked ∧
      checked.key = pointKey ∧
      checked.toText =
        .ok "npub180cvv07tjdrrgpa0j7j7tmnyl2yr6yr7l8j4s3evf6u64th6gkwsyjh6w6") ∧
    CurveSecretKey.ofText zeroSecretText = .error (.curve .invalidSecretKey) ∧
    CurveSecretKey.ofText "nsec1" = .error (.entity (.bech32 (.tooShort 5))) := by
  rcases readsChecked_publicKey_and_secretKey with ⟨points, scalars, -, -⟩
  have plain : PublicKey.ofText pointText = .ok pointKey := by
    cbv
  have valid : Curve.IsAbscissa pointKey.toNat :=
    Curve.isAbscissa_iff.mp (by decide +kernel)
  have zero : SecretKey.ofText zeroSecretText = .ok ⟨.zero⟩ := by
    cbv
  have short : SecretKey.ofText "nsec1" = .error (.bech32 (.tooShort 5)) := by
    cbv
  have lower : pointText.toLower =
      "npub180cvv07tjdrrgpa0j7j7tmnyl2yr6yr7l8j4s3evf6u64th6gkwsyjh6w6" := by
    cbv
  rcases (points.accepts pointText pointKey).mpr ⟨plain, valid⟩ with ⟨checked, read, same⟩
  have written := points.rewrites pointText checked read
  rw [lower] at written
  exact ⟨⟨checked, read, same, written⟩,
    (scalars.refuses _ _).mpr ⟨rfl, _, zero, by decide⟩,
    (scalars.passesOn _ _).mpr short⟩

end NostrEntities
