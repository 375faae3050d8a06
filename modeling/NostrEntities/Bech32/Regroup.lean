import NostrEntities.Bech32.Error

/-!
# Regrouping bits

A list of values of one width is read as a stream of bits and cut into values of
another width. The stream passes through a small register that holds the bits
not yet written. What is left in it at the end is either filled up with zeros and
written, or has to be nothing but a short rest of zeros.
-/

namespace NostrEntities.Bech32

/-- The number of bits in a value: at least one, and no more than a byte has. -/
structure Width where
  bits : Nat
  pos : 0 < bits := by omega
  le_eight : bits ≤ 8 := by omega
  deriving DecidableEq

namespace Width

/-- The width with the given number of bits, if it is one. -/
def ofNat? (bits : Nat) : Option Width :=
  if inBounds : 0 < bits ∧ bits ≤ 8 then some ⟨bits, inBounds.1, inBounds.2⟩
  else none

/-- The width of a byte. -/
def byte : Width := { bits := 8 }

/-- The width of a word. -/
def word : Width := { bits := 5 }

/-- Whether a value has no bits beyond the width. -/
def fits (width : Width) (value : UInt8) : Bool :=
  value.toNat >>> width.bits == 0

theorem ofNat?_eq_some_iff {bits : Nat} {width : Width} :
    ofNat? bits = some width ↔ width.bits = bits := by
  unfold ofNat?
  constructor
  · intro found
    split at found
    · cases found; rfl
    · cases found
  · rintro rfl
    rw [dif_pos ⟨width.pos, width.le_eight⟩]

theorem ofNat?_eq_none_iff {bits : Nat} :
    ofNat? bits = none ↔ bits = 0 ∨ 8 < bits := by
  unfold ofNat?
  split
  · simp; omega
  · simp; omega

end Width

/-- Bits read and not yet written: the low `count` bits of `value`. All other
bits of `value` are zero. -/
structure Register where
  value : UInt32
  count : Nat
  deriving DecidableEq, Repr

namespace Register

/-- The register without any bits. -/
def empty : Register := ⟨0, 0⟩

/-- Append the bits of a value at the low end. -/
def push (register : Register) (width : Width) (value : UInt8) : Register where
  value := (register.value <<< width.bits.toUInt32) ||| value.toUInt32
  count := register.count + width.bits

/-- The value of the highest bits, `width` of them. -/
def top (register : Register) (width : Width) : UInt8 :=
  (register.value >>> (register.count - width.bits).toUInt32).toUInt8

/-- The register without its highest bits, `width` of them. -/
def drop (register : Register) (width : Width) : Register where
  value := register.value &&&
    ((1 <<< (register.count - width.bits).toUInt32) - 1)
  count := register.count - width.bits

/-- Take a number of values off the high end. -/
def take (width : Width) : Nat → Register → List UInt8 × Register
  | 0, register => ([], register)
  | count + 1, register =>
      let (values, rest) := take width count (register.drop width)
      (register.top width :: values, rest)

/-- Append the bits of a value and take off every value that is complete. -/
def feed (source target : Width) (register : Register) (value : UInt8) :
    List UInt8 × Register :=
  let pushed := register.push source value
  pushed.take target (pushed.count / target.bits)

/-- Pass a list of values through the register. -/
def feedAll (source target : Width) :
    Register → List UInt8 → List UInt8 × Register
  | register, [] => ([], register)
  | register, value :: rest =>
      let (written, following) := register.feed source target value
      let (others, final) := feedAll source target following rest
      (written ++ others, final)

/-- What the bits left over at the end add to the result when they are filled up
with zeros. -/
def padding (register : Register) (target : Width) : List UInt8 :=
  if register.count = 0 then []
  else [(register.value <<< (target.bits - register.count).toUInt32).toUInt8]

/-- Whether the bits left over at the end can be left out: they are zeros, and
too few to have filled another input value. -/
def isNegligible (register : Register) (source : Width) : Bool :=
  register.count < source.bits && register.value == 0

end Register

/-- Regroup values of width `source` into values of width `target`. With
`padded`, an incomplete last value is filled up with zeros; otherwise it must be
negligible. -/
def regroup (source target : Width) (padded : Bool) (values : List UInt8) :
    Except Error (List UInt8) :=
  match values.find? (fun value => !source.fits value) with
  | some value => .error (.invalidWord value)
  | none =>
      let (written, rest) := Register.empty.feedAll source target values
      if padded then .ok (written ++ rest.padding target)
      else if rest.isNegligible source then .ok written
      else .error .nonCanonicalPadding

/-- Regroup between widths that are given as numbers. -/
def regroupBits (source target : Nat) (padded : Bool) (values : List UInt8) :
    Except Error (List UInt8) :=
  match Width.ofNat? source, Width.ofNat? target with
  | some sourceWidth, some targetWidth =>
      regroup sourceWidth targetWidth padded values
  | _, _ => .error (.invalidWidth source target)

/-- The words that carry a byte string. -/
def wordsOfBytes (bytes : List UInt8) : Except Error (List UInt8) :=
  regroup .byte .word true bytes

/-- The byte string that words carry. -/
def bytesOfWords (words : List UInt8) : Except Error (List UInt8) :=
  regroup .word .byte false words

end NostrEntities.Bech32
