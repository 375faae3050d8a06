import Mathlib
import NostrEntities.Key.Curve

/-!
# The field of the curve

The number of elements of the field is a prime. The proof is a chain of certificates: a
number is prime if the prime factors that are known of its predecessor multiply to more
than its root, and a base has an order, modulo each possible divisor, in which all of them
occur. As the prime leaves the remainder 3 when divided by 4, the one candidate for a root
decides which elements are squares, and with that which numbers are the first coordinate of
a point.
-/

namespace NostrEntities.Curve

/-! ## Powers -/

/-- Horner's rule at one binary digit of the exponent. -/
def raise (modulus base exponent place power : Nat) : Nat :=
  let squared := power * power % modulus
  if exponent.testBit place then squared * base % modulus else squared

variable {modulus base exponent : Nat}

/-- The digits of an exponent from a place on are twice those behind it, and the digit
itself. -/
theorem raise_pow (place : Nat) :
    raise modulus base exponent place (base ^ (exponent / 2 ^ (place + 1)) % modulus) =
      base ^ (exponent / 2 ^ place) % modulus := by
  have halved : exponent / 2 ^ (place + 1) = exponent / 2 ^ place / 2 := by
    rw [Nat.pow_succ, Nat.div_div_eq_div_mul]
  rw [raise, Nat.testBit_eq_decide_div_mod_eq, halved]
  generalize exponent / 2 ^ place = digits
  rw [← Nat.mul_mod, ← Nat.pow_add]
  by_cases odd : digits % 2 = 1
  · rw [if_pos (by simpa using odd), Nat.mod_mul_mod, ← Nat.pow_succ]
    congr 2
    omega
  · rw [if_neg (by simpa using odd)]
    congr 2
    omega

/-- Powers are what they are called, for exponents of 256 binary digits. -/
theorem powMod_eq (modulus base : Nat) (small : exponent < 2 ^ 256) :
    powMod modulus base exponent = base ^ exponent % modulus := by
  have run : ∀ places, (List.range places).foldr (raise modulus base exponent)
      (base ^ (exponent / 2 ^ places) % modulus) = base ^ exponent % modulus := by
    intro places
    induction places with
    | zero => simp
    | succ places ih =>
        rw [List.range_succ, List.foldr_append, List.foldr_cons, List.foldr_nil,
          raise_pow, ih]
  have start := run 256
  rw [Nat.div_eq_of_lt small, Nat.pow_zero] at start
  exact start

/-! ## Primality -/

/-- A prime occurs in the order of an element if leaving it out of an exponent that gives
one no longer gives one. -/
theorem dvd_orderOf {group : Type} [Monoid group] {element : group}
    {factor whole : Nat} (known : factor.Prime) (divides : factor ∣ whole)
    (unit : element ^ whole = 1) (proper : element ^ (whole / factor) ≠ 1) :
    factor ∣ orderOf element := by
  by_contra absent
  have coprime := ((Nat.Prime.coprime_iff_not_dvd known).mpr absent).symm
  have order : orderOf element ∣ factor * (whole / factor) := by
    rw [Nat.mul_div_cancel' divides]
    exact orderOf_dvd_of_pow_eq_one unit
  exact proper (orderOf_dvd_iff_pow_eq_one.mp (coprime.dvd_of_dvd_mul_left order))

/-- A certificate for a number: prime factors of its predecessor, which multiply to more
than its root, and a base that gives one only with all of them in the exponent. -/
structure Certifies (base : Nat) (factors : Finset Nat) (number : Nat) : Prop where
  small : number < 2 ^ 256
  large : 1 < number
  prime : ∀ factor ∈ factors, factor.Prime
  divides : ∀ factor ∈ factors, factor ∣ number - 1
  many : number < (∏ factor ∈ factors, factor) ^ 2
  unit : powMod number base (number - 1) = 1
  proper : ∀ factor ∈ factors,
    (powMod number base ((number - 1) / factor) - 1).Coprime number

variable {number factor divisor : Nat} {factors : Finset Nat}

/-- Modulo a prime that divides the number, every known factor occurs in the order of the
base, and so in the predecessor of that prime. -/
theorem Certifies.dvd_sub_one (certified : Certifies base factors number)
    (known : factor ∈ factors) (prime : divisor.Prime) (part : divisor ∣ number) :
    factor ∣ divisor - 1 := by
  have field : Fact divisor.Prime := ⟨prime⟩
  have small := certified.small
  have large := certified.large
  have cast : ∀ exponent ≤ number - 1,
      ((powMod number base exponent : Nat) : ZMod divisor) =
        (base : ZMod divisor) ^ exponent := by
    intro exponent bound
    rw [powMod_eq _ _ (by omega), ← Nat.cast_pow, ZMod.natCast_eq_natCast_iff]
    exact (Nat.mod_modEq _ _).of_dvd part
  have unit : (base : ZMod divisor) ^ (number - 1) = 1 := by
    rw [← cast _ le_rfl, certified.unit, Nat.cast_one]
  have proper : (base : ZMod divisor) ^ ((number - 1) / factor) ≠ 1 := by
    intro same
    rw [← cast _ (Nat.div_le_self _ _)] at same
    have below : divisor ∣ powMod number base ((number - 1) / factor) - 1 := by
      rw [← ZMod.natCast_eq_zero_iff]
      cases power : powMod number base ((number - 1) / factor) with
      | zero => simp
      | succ less =>
          rw [power, Nat.cast_succ] at same
          simpa using same
    exact prime.one_lt.ne' (Nat.eq_one_of_dvd_one
      (certified.proper factor known ▸ Nat.dvd_gcd below part))
  have nonzero : (base : ZMod divisor) ≠ 0 := by
    intro zero
    rw [zero, zero_pow (by omega)] at unit
    exact zero_ne_one unit
  exact (dvd_orderOf (certified.prime factor known) (certified.divides factor known) unit
    proper).trans (orderOf_dvd_of_pow_eq_one (ZMod.pow_card_sub_one_eq_one nonzero))

/-- A number with a certificate is prime: its least divisor is more than the known factors
together, and so more than the root of the number. -/
theorem Certifies.prime_number (certified : Certifies base factors number) :
    number.Prime := by
  by_contra composite
  have large := certified.large
  have least := Nat.minFac_prime (Nat.ne_of_gt large)
  have product : (∏ factor ∈ factors, factor) ∣ number.minFac - 1 :=
    Finset.prod_primes_dvd _ (fun factor known => (certified.prime factor known).prime)
      fun factor known => certified.dvd_sub_one known least number.minFac_dvd
  have bound : (∏ factor ∈ factors, factor) ≤ number.minFac - 1 :=
    Nat.le_of_dvd (Nat.sub_pos_of_lt least.one_lt) product
  have square : number.minFac ^ 2 ≤ number :=
    Nat.minFac_sq_le_self (Nat.zero_lt_of_lt large) composite
  have less : (∏ factor ∈ factors, factor) ^ 2 ≤ number.minFac ^ 2 :=
    Nat.pow_le_pow_left (bound.trans (Nat.sub_le _ _)) 2
  exact absurd certified.many (Nat.not_lt.mpr (less.trans square))

/-- The last link of the chain, from factors that are small. -/
theorem certifies_third :
    Certifies 2 {96557, 7240687, 107590001} 255515944373312847190720520512484175977 where
  small := by decide
  large := by decide
  prime := by
    simp only [Finset.forall_mem_insert, Finset.mem_singleton, forall_eq]
    norm_num
  divides := by decide
  many := by decide
  unit := by decide +kernel
  proper := by decide +kernel

theorem certifies_second :
    Certifies 2 {255515944373312847190720520512484175977}
      205115282021455665897114700593932402728804164701536103180137503955397371 where
  small := by decide
  large := by decide
  prime := by
    simpa only [Finset.mem_singleton, forall_eq] using certifies_third.prime_number
  divides := by decide
  many := by decide
  unit := by decide +kernel
  proper := by decide +kernel

theorem certifies_fieldPrime :
    Certifies 2 {205115282021455665897114700593932402728804164701536103180137503955397371}
      fieldPrime where
  small := by decide
  large := by decide
  prime := by
    simpa only [Finset.mem_singleton, forall_eq] using certifies_second.prime_number
  divides := by decide
  many := by decide
  unit := by decide +kernel
  proper := by decide +kernel

theorem prime_fieldPrime : fieldPrime.Prime :=
  certifies_fieldPrime.prime_number

/-! ## Points -/

/-- Whether a number is the first coordinate of a point: it stands for an element of the
field, and there is an element whose square is the right hand side of the equation. -/
def IsAbscissa (x : Nat) : Prop :=
  x < fieldPrime ∧ ∃ y < fieldPrime, y * y % fieldPrime = (x * x * x + 7) % fieldPrime

/-- A root is found exactly of the squares. -/
theorem isSome_squareRoot?_iff {value : Nat} :
    (squareRoot? value).isSome = true ↔
      ∃ root < fieldPrime, root * root % fieldPrime = value % fieldPrime := by
  constructor
  · intro found
    rcases Option.isSome_iff_exists.mp found with ⟨root, found⟩
    refine ⟨root % fieldPrime, Nat.mod_lt _ (by decide), ?_⟩
    rw [← Nat.mul_mod, square_of_squareRoot? found]
  · intro square
    rcases square with ⟨root, -, squared⟩
    have field : Fact fieldPrime.Prime := ⟨prime_fieldPrime⟩
    have element : (root : ZMod fieldPrime) * root = value := by
      rw [← Nat.cast_mul, ZMod.natCast_eq_natCast_iff]
      exact squared
    -- The value is a square already, and four times the exponent of the candidate is one
    -- more than the order of the field.
    have candidate : (value : ZMod fieldPrime) ^ ((fieldPrime + 1) / 4) *
        (value : ZMod fieldPrime) ^ ((fieldPrime + 1) / 4) = value := by
      have exponent : (fieldPrime + 1) / 4 + (fieldPrime + 1) / 4 +
          ((fieldPrime + 1) / 4 + (fieldPrime + 1) / 4) = fieldPrime + 1 := by decide
      rw [← element, ← pow_add, mul_pow, ← pow_add, exponent, pow_succ, ZMod.pow_card]
    rw [squareRoot?, powMod_eq _ _ (by decide)]
    rw [if_pos, Option.isSome_some]
    rw [← Nat.mul_mod, ← Nat.ModEq, ← ZMod.natCast_eq_natCast_iff]
    simpa only [Nat.cast_mul, Nat.cast_pow] using candidate

theorem isAbscissa_iff {x : Nat} : isAbscissa x = true ↔ IsAbscissa x := by
  rw [isAbscissa, Bool.and_eq_true, decide_eq_true_iff, isSome_squareRoot?_iff,
    ordinateSquared, Nat.mod_mod, IsAbscissa]

theorem isScalar_iff {number : Nat} :
    isScalar number = true ↔ 1 ≤ number ∧ number < groupOrder := by
  rw [isScalar, Bool.and_eq_true, decide_eq_true_iff, decide_eq_true_iff]

end NostrEntities.Curve
