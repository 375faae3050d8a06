/-!
# Event kinds as bytes

An event kind is a number of 32 bits. In a record it takes four bytes, the
highest one first.
-/

namespace NostrEntities.EventKind

/-- The four bytes of a kind. -/
def toBytes (kind : UInt32) : List UInt8 :=
  [UInt8.ofNat (kind.toNat / 16777216), UInt8.ofNat (kind.toNat / 65536),
    UInt8.ofNat (kind.toNat / 256), UInt8.ofNat kind.toNat]

/-- The kind that four bytes write. -/
def ofBytes? : List UInt8 → Option UInt32
  | [first, second, third, fourth] =>
      some (UInt32.ofNat
        (((first.toNat * 256 + second.toNat) * 256 + third.toNat) * 256 +
          fourth.toNat))
  | _ => none

@[simp] theorem length_toBytes (kind : UInt32) : (toBytes kind).length = 4 := rfl

@[simp] theorem ofBytes?_toBytes (kind : UInt32) :
    ofBytes? (toBytes kind) = some kind := by
  have inBounds := kind.toNat_lt
  simp only [toBytes, ofBytes?, Option.some.injEq]
  apply UInt32.toNat_inj.mp
  simp only [UInt8.toNat_ofNat', UInt32.toNat_ofNat']
  omega

/-- Four bytes are the bytes of the kind that they write. -/
theorem toBytes_of_ofBytes? {bytes : List UInt8} {kind : UInt32}
    (read : ofBytes? bytes = some kind) : toBytes kind = bytes := by
  unfold ofBytes? at read
  split at read
  · rename_i first second third fourth
    obtain rfl := Option.some.inj read
    have firstLt := first.toNat_lt
    have secondLt := second.toNat_lt
    have thirdLt := third.toNat_lt
    have fourthLt := fourth.toNat_lt
    simp only [toBytes, List.cons.injEq, and_true]
    refine ⟨?_, ?_, ?_, ?_⟩ <;> apply UInt8.toNat_inj.mp <;>
      simp only [UInt8.toNat_ofNat', UInt32.toNat_ofNat'] <;> omega
  · cases read

/-- Reading succeeds exactly on the bytes of a kind. -/
theorem ofBytes?_eq_some_iff {bytes : List UInt8} {kind : UInt32} :
    ofBytes? bytes = some kind ↔ bytes = toBytes kind := by
  constructor
  · intro read
    exact (toBytes_of_ofBytes? read).symm
  · rintro rfl
    exact ofBytes?_toBytes kind

end NostrEntities.EventKind
