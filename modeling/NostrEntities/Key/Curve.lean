import NostrEntities.Key

/-!
# Keys on the curve

The curve is y² = x³ + 7 over the field of `fieldPrime` elements. A public key is
on the curve when it is the x coordinate of a point, and a secret key is usable
when it is a multiplier between one and the order of the group. The field prime
leaves the remainder 3 when divided by 4, so a power of a square is a root of it.
-/

namespace NostrEntities.Curve

/-- The number of elements of the field. -/
def fieldPrime : Nat :=
  0xFFFFFFFFFFFFFFFFFFFFFFFFFFFFFFFFFFFFFFFFFFFFFFFFFFFFFFFEFFFFFC2F

/-- The number of points of the group. -/
def groupOrder : Nat :=
  0xFFFFFFFFFFFFFFFFFFFFFFFFFFFFFFFEBAAEDCE6AF48A03BBFD25E8CD0364141

/-- Why a key does not belong to the curve. -/
inductive Error where
  | invalidPublicKey
  | invalidSecretKey
  deriving DecidableEq, Repr

namespace Error

/-- The message for a person. -/
def message : Error → String
  | .invalidPublicKey => "malformed public key"
  | .invalidSecretKey => "malformed or out-of-range secret key"

/-- The structured account, under the names that a full report uses. -/
def diagnostic : Error → Diagnostic
  | .invalidPublicKey => .plain "InvalidPublicKey"
  | .invalidSecretKey => .plain "InvalidSecretKey"

end Error

/-- A power modulo a number, for exponents below two to the 256th: Horner's rule
over the binary digits of the exponent, the highest first. -/
def powMod (modulus base exponent : Nat) : Nat :=
  (List.range 256).foldr
    (fun place power =>
      let squared := power * power % modulus
      if exponent.testBit place then squared * base % modulus else squared)
    (1 % modulus)

/-- A root of a field element, if it has one: the only candidate up to sign is
the element to the power of a quarter of `fieldPrime + 1`. -/
def squareRoot? (value : Nat) : Option Nat :=
  let root := powMod fieldPrime value ((fieldPrime + 1) / 4)
  if root * root % fieldPrime = value % fieldPrime then some root else none

/-- The right hand side of the equation of the curve. -/
def ordinateSquared (x : Nat) : Nat :=
  (x * x * x + 7) % fieldPrime

/-- Whether a number is the x coordinate of a point of the curve. -/
def isAbscissa (x : Nat) : Bool :=
  x < fieldPrime && (squareRoot? (ordinateSquared x)).isSome

/-- Whether a number is a multiplier of points. -/
def isScalar (number : Nat) : Bool :=
  1 ≤ number && number < groupOrder

/-- A root squares to the element it was taken of. -/
theorem square_of_squareRoot? {value root : Nat}
    (found : squareRoot? value = some root) :
    root * root % fieldPrime = value % fieldPrime := by
  unfold squareRoot? at found
  dsimp only at found
  split at found
  · cases found
    assumption
  · cases found

end NostrEntities.Curve

namespace NostrEntities

/-- Whether the key is the x coordinate of a point. -/
def PublicKey.isOnCurve (key : PublicKey) : Bool :=
  Curve.isAbscissa key.toNat

/-- Whether the key is a multiplier of points. -/
def SecretKey.isUsable (key : SecretKey) : Bool :=
  Curve.isScalar key.toNat

/-- A public key that is the x coordinate of a point. -/
structure CurvePublicKey where
  key : PublicKey
  onCurve : key.isOnCurve = true

/-- A secret key that is a multiplier of points. -/
structure CurveSecretKey where
  key : SecretKey
  usable : key.isUsable = true

/-- Accept the public keys that lie on the curve. -/
def PublicKey.toCurve (key : PublicKey) : Except Curve.Error CurvePublicKey :=
  if onCurve : key.isOnCurve = true then .ok ⟨key, onCurve⟩
  else .error .invalidPublicKey

/-- Accept the secret keys that are in range. -/
def SecretKey.toCurve (key : SecretKey) : Except Curve.Error CurveSecretKey :=
  if usable : key.isUsable = true then .ok ⟨key, usable⟩
  else .error .invalidSecretKey

end NostrEntities
