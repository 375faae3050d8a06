import NostrEntities.Proofs.Bech32.BitStream
import NostrEntities.Traced

/-!
# Computations that a machine may have to stop

A machine has to stop when it is asked for an element that a sequence does not have, for
a piece beyond the ends of a sequence, for less than nothing, for a division by zero, or
for a shift by more places than a register has. A guarded computation asks before each such step and ends
in a fault instead. It also ends in a fault where a machine would go on unawares: when a
shift moves bits out of the register, and when a loop takes more rounds than it was
given.

A guarded computation that comes to the same as a plain one has no fault on any path
that is taken. Positions in sequences are numbers without a limit; only counts of bits
and registers are held in 32 bits.
-/

namespace NostrEntities

/-- Why a machine stops in the middle of a computation. -/
inductive Fault where
  | noElement (position length : Nat)
  | noPiece (start length : Nat)
  /-- A text would be cut inside one of its characters. -/
  | insideCharacter (position : Nat)
  | overflow (first second : Nat)
  | underflow (minuend subtrahend : Nat)
  | divisionByZero (dividend : Nat)
  | shiftTooFar (places : Nat)
  | bitsLost (value : UInt32) (places : Nat)
  /-- A loop has used up its rounds. -/
  | unfinished
  deriving DecidableEq, Repr

/-- A traced computation, or the fault that stops it. -/
def Guarded (ε α : Type) : Type := Except Fault (Traced ε α)

namespace Guarded

variable {ε δ α β : Type}

/-- A computation without any fault. -/
def ofTraced (computation : Traced ε α) : Guarded ε α :=
  Except.ok computation

/-- Stop. -/
def stop (fault : Fault) : Guarded ε α :=
  Except.error fault

/-- Continue with the value of a computation, unless it fails or is stopped. -/
def bind (first : Guarded ε α) (next : α → Guarded ε β) : Guarded ε β :=
  match first with
  | .error fault => stop fault
  | .ok ⟨notices, .error cause⟩ => ofTraced ⟨notices, .error cause⟩
  | .ok ⟨notices, .ok value⟩ =>
      match next value with
      | .error fault => stop fault
      | .ok second => ofTraced ⟨notices ++ second.notices, second.outcome⟩

instance : Monad (Guarded ε) where
  pure value := ofTraced (Traced.pure value)
  bind := Guarded.bind

/-- A computation that leaves no notice and has no fault. -/
def ofExcept (outcome : Except ε α) : Guarded ε α :=
  ofTraced (.ofExcept outcome)

/-- Fail. -/
def fail (cause : ε) : Guarded ε α :=
  ofTraced (.fail cause)

/-- Restate the failure. Faults are passed on as they are. -/
def mapError (restate : ε → δ) : Guarded ε α → Guarded δ α
  | .error fault => stop fault
  | .ok computation => ofTraced (computation.mapError restate)

/-! ## Steps of a machine -/

/-- The element at a position. -/
def element (sequence : List α) (position : Nat) : Guarded ε α :=
  match sequence[position]? with
  | some value => pure value
  | none => stop (.noElement position sequence.length)

/-- The piece of a sequence from a position on. -/
def pieceFrom (sequence : List α) (start : Nat) : Guarded ε (List α) :=
  if start ≤ sequence.length then pure (sequence.drop start)
  else stop (.noPiece start sequence.length)

/-- Whether a byte of a text belongs to a character that begins before it. -/
def continuesCharacter (byte : UInt8) : Bool :=
  byte &&& 0xc0 == 0x80

/-- What stands before a position of a text and what stands from there on. The text is
given by its bytes. -/
def cut (text : List UInt8) (position : Nat) :
    Guarded ε (List UInt8 × List UInt8) :=
  if text.length < position then stop (.noPiece position text.length)
  else if text[position]?.any continuesCharacter then
    stop (.insideCharacter position)
  else pure (text.take position, text.drop position)

/-- The sum of two counts of bits. -/
def add (first second : Nat) : Guarded ε Nat :=
  if first + second < 2 ^ 32 then pure (first + second)
  else stop (.overflow first second)

/-- What is left of a number. -/
def subtract (minuend subtrahend : Nat) : Guarded ε Nat :=
  if subtrahend ≤ minuend then pure (minuend - subtrahend)
  else stop (.underflow minuend subtrahend)

/-- How often a number goes into another. -/
def divide (dividend divisor : Nat) : Guarded ε Nat :=
  if divisor = 0 then stop (.divisionByZero dividend)
  else pure (dividend / divisor)

/-- Move the bits of a register towards the high end. -/
def shiftLeft (value : UInt32) (places : Nat) : Guarded ε UInt32 :=
  if 32 ≤ places then stop (.shiftTooFar places)
  else if 2 ^ 32 ≤ value.toNat * 2 ^ places then stop (.bitsLost value places)
  else pure (value <<< places.toUInt32)

/-- Move the bits of a register towards the low end. -/
def shiftRight (value : UInt32) (places : Nat) : Guarded ε UInt32 :=
  if 32 ≤ places then stop (.shiftTooFar places)
  else pure (value >>> places.toUInt32)

/-- A register with the given number of ones at the low end. -/
def ones (count : Nat) : Guarded ε UInt32 := do
  let power ← shiftLeft 1 count
  let below ← subtract power.toNat 1
  return below.toUInt32

/-! ## No fault -/

section Steps

theorem element_eq_pure {sequence : List α} {position : Nat} {value : α}
    (found : sequence[position]? = some value) :
    (element sequence position : Guarded ε α) = pure value := by
  rw [element, found]

theorem pieceFrom_eq_pure {sequence : List α} {start : Nat}
    (inBounds : start ≤ sequence.length) :
    (pieceFrom sequence start : Guarded ε (List α)) = pure (sequence.drop start) :=
  if_pos inBounds

theorem cut_append_eq_pure (before after : List UInt8) {byte : UInt8}
    (begins : continuesCharacter byte = false) :
    (cut (before ++ byte :: after) before.length :
      Guarded ε (List UInt8 × List UInt8)) = pure (before, byte :: after) := by
  rw [cut, if_neg (by simp), if_neg (by simp [begins]), List.take_left',
    List.drop_left'] <;> rfl

theorem add_eq_pure {first second : Nat} (room : first + second < 2 ^ 32) :
    (add first second : Guarded ε Nat) = pure (first + second) :=
  if_pos room

theorem subtract_eq_pure {minuend subtrahend : Nat}
    (enough : subtrahend ≤ minuend) :
    (subtract minuend subtrahend : Guarded ε Nat) = pure (minuend - subtrahend) :=
  if_pos enough

theorem divide_eq_pure {dividend divisor : Nat} (positive : 0 < divisor) :
    (divide dividend divisor : Guarded ε Nat) = pure (dividend / divisor) :=
  if_neg (Nat.ne_of_gt positive)

theorem shiftLeft_eq_pure {value : UInt32} {places : Nat} (small : places < 32)
    (room : value.toNat * 2 ^ places < 2 ^ 32) :
    (shiftLeft value places : Guarded ε UInt32) =
      pure (value <<< places.toUInt32) := by
  rw [shiftLeft, if_neg (Nat.not_le.mpr small), if_neg (Nat.not_le.mpr room)]

theorem shiftRight_eq_pure {value : UInt32} {places : Nat} (small : places < 32) :
    (shiftRight value places : Guarded ε UInt32) =
      pure (value >>> places.toUInt32) :=
  if_neg (Nat.not_le.mpr small)

end Steps

/-! ## Guarded computations that come to the same as plain ones -/

@[simp] theorem pure_bind (value : α) (next : α → Guarded ε β) :
    ((pure value : Guarded ε α) >>= next) = next value := by
  show Guarded.bind (.ok ⟨[], .ok value⟩) next = next value
  rw [Guarded.bind]
  cases next value <;> rfl

@[simp] theorem fail_bind (cause : ε) (next : α → Guarded ε β) :
    ((fail cause : Guarded ε α) >>= next) = fail cause := rfl

@[simp] theorem mapError_ofTraced (restate : ε → δ) (computation : Traced ε α) :
    (ofTraced computation).mapError restate =
      ofTraced (computation.mapError restate) := rfl

@[simp] theorem mapError_ofExcept (restate : ε → δ) (outcome : Except ε α) :
    (ofExcept outcome).mapError restate = ofExcept (outcome.mapError restate) := rfl

theorem ofExcept_ok (value : α) : (ofExcept (.ok value) : Guarded ε α) = pure value :=
  rfl

/-- Steps that come to the same do so in sequence. The second step only needs to for
the values that the first one hands over, which is where the guards of the second step
are covered by the checks of the first. -/
theorem bind_eq_ofTraced {first : Guarded ε α} {plain : Traced ε α}
    {next : α → Guarded ε β} {plainNext : α → Traced ε β}
    (same : first = ofTraced plain)
    (following : ∀ value, plain.outcome = .ok value →
      next value = ofTraced (plainNext value)) :
    (first >>= next) = ofTraced (plain >>= plainNext) := by
  rcases plain with ⟨notices, outcome⟩
  rw [same]
  cases outcome with
  | error cause => rfl
  | ok value =>
      have continued := following value rfl
      show Guarded.bind (.ok ⟨notices, .ok value⟩) next = _
      rw [Guarded.bind, continued]
      rfl

/-- The same for steps that leave no notice. -/
theorem bind_eq_ofExcept {first : Guarded ε α} {plain : Except ε α}
    {next : α → Guarded ε β} {plainNext : α → Except ε β}
    (same : first = ofExcept plain)
    (following : ∀ value, plain = .ok value →
      next value = ofExcept (plainNext value)) :
    (first >>= next) = ofExcept (plain >>= plainNext) := by
  rw [same]
  cases plain with
  | error cause => rfl
  | ok value =>
      rw [ofExcept_ok, pure_bind]
      exact following value rfl

/-! ## Masks -/

theorem ones_eq_pure {count : Nat} (small : count < 32) :
    (ones count : Guarded ε UInt32) = pure (2 ^ count - 1).toUInt32 := by
  have bound : 2 ^ count < 2 ^ 32 := Nat.pow_lt_pow_right (by decide) small
  have room : (1 : UInt32).toNat * 2 ^ count < 2 ^ 32 := by
    rwa [UInt32.toNat_one, Nat.one_mul]
  rw [ones, shiftLeft_eq_pure small room, pure_bind,
    Bech32.Register.toNat_shiftLeft small room, UInt32.toNat_one, Nat.one_mul,
    subtract_eq_pure (Nat.two_pow_pos count), pure_bind]

theorem toNat_and_ones (value : UInt32) {count : Nat} (small : count < 32) :
    (value &&& (2 ^ count - 1).toUInt32).toNat = value.toNat % 2 ^ count := by
  have bound : 2 ^ count < 2 ^ 32 := Nat.pow_lt_pow_right (by decide) small
  rw [UInt32.toNat_and, Nat.toUInt32, UInt32.toNat_ofNat',
    Nat.mod_eq_of_lt (Nat.lt_of_le_of_lt (Nat.sub_le _ _) bound),
    Nat.and_two_pow_sub_one_eq_mod]

end Guarded

end NostrEntities
