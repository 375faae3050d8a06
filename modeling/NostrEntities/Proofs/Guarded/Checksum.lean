import NostrEntities.Proofs.Bech32.Residue
import NostrEntities.Proofs.Guarded.Basic
import NostrEntities.Proofs.Text.Utf8

/-!
# The checksum on a machine

A machine keeps the residue in the low 30 bits of a register. The five bits at the top
are cut off before the rest is moved up, so no bit is lost, and each of them is looked at
by a shift of its own.
-/

namespace NostrEntities.Bech32

open Guarded

/-- A residue in a register. -/
def Residue.widen (residue : Residue) : UInt32 :=
  ⟨residue.setWidth 32⟩

/-- A word in a register. -/
def Word.widen (word : Word) : UInt32 :=
  ⟨word.setWidth 32⟩

/-- The generators, in the order of the bits that choose them. -/
def generators : List UInt32 :=
  [0x3b6a57b2, 0x26508e6d, 0x1ea119fa, 0x3d4233dd, 0x2a1462b3]

/-- Add in the generators that the bits of `top` choose, from the bit at `place` on. -/
def addGenerators (top : UInt32) :
    Nat → List UInt32 → UInt32 → Guarded Error UInt32
  | _, [], register => pure register
  | place, generator :: rest, register => do
      let shifted ← shiftRight top place
      addGenerators top (place + 1) rest
        (if shifted &&& 1 = 1 then register ^^^ generator else register)

/-- Make room for one word at the bottom of the residue. -/
def guardedStep (register : UInt32) : Guarded Error UInt32 := do
  let top ← shiftRight register 25
  let moved ← shiftLeft (register &&& 0x1ffffff) 5
  addGenerators top 0 generators moved

/-- Take in a word for each byte of a list. -/
def guardedAbsorbAll (part : UInt8 → Guarded Error UInt32) :
    UInt32 → List UInt8 → Guarded Error UInt32
  | register, [] => pure register
  | register, byte :: rest => do
      let stepped ← guardedStep register
      let word ← part byte
      guardedAbsorbAll part (stepped ^^^ word) rest

/-- The residue after a human-readable part. -/
def guardedResidue (hrp : List UInt8) : Guarded Error UInt32 := do
  let high ← guardedAbsorbAll (fun byte => shiftRight byte.toUInt32 5) 1 hrp
  let separated ← guardedStep high
  guardedAbsorbAll (fun byte => pure (byte.toUInt32 &&& 0x1f)) separated hrp

/-- The words that stand for the bytes of a human-readable part: the high three bits of
every byte, a zero, and the low five bits of every byte. -/
def expansion (bytes : List UInt8) : List Word :=
  bytes.map (fun byte => BitVec.ofNat 5 (byte.toNat / 32)) ++
    0 :: bytes.map (fun byte => BitVec.ofNat 5 byte.toNat)

/-- The variant whose texts leave the residue in a register. -/
def variantOfRegister? (register : UInt32) : Option Variant :=
  if register = 1 then some .bech32
  else if register = 0x2bc830a3 then some .bech32m
  else none

/-! ## Registers that hold a residue -/

@[simp] theorem Residue.toNat_widen (residue : Residue) :
    residue.widen.toNat = residue.toNat := by
  have bound := residue.isLt
  rw [widen, UInt32.toNat, BitVec.toNat_setWidth]
  exact Nat.mod_eq_of_lt (by omega)

@[simp] theorem Word.toNat_widen (word : Word) : word.widen.toNat = word.toNat := by
  have bound := word.isLt
  rw [widen, UInt32.toNat, BitVec.toNat_setWidth]
  exact Nat.mod_eq_of_lt (by omega)

theorem Residue.widen_injective : Function.Injective Residue.widen := by
  intro first second same
  apply BitVec.eq_of_toNat_eq
  rw [← toNat_widen, same, toNat_widen]

theorem Residue.widen_xor (first second : Residue) :
    (first ^^^ second).widen = first.widen ^^^ second.widen := by
  rw [← UInt32.toNat_inj, UInt32.toNat_xor]
  simp

theorem Residue.widen_xor_word (residue : Residue) (word : Word) :
    (residue ^^^ word.setWidth 30).widen = residue.widen ^^^ word.widen := by
  have same : Residue.widen (word.setWidth 30) = word.widen := by
    have bound := word.isLt
    rw [← UInt32.toNat_inj, Residue.toNat_widen, Word.toNat_widen,
      BitVec.toNat_setWidth]
    exact Nat.mod_eq_of_lt (by omega)
  rw [Residue.widen_xor, same]

theorem variantOfRegister?_widen (residue : Residue) :
    variantOfRegister? residue.widen = Variant.ofResidue? residue := by
  have plain : residue.widen = 1 ↔ residue = Variant.bech32.constant :=
    Residue.widen_injective.eq_iff (b := Variant.bech32.constant)
  have modified : residue.widen = 0x2bc830a3 ↔ residue = Variant.bech32m.constant :=
    Residue.widen_injective.eq_iff (b := Variant.bech32m.constant)
  simp only [variantOfRegister?, Variant.ofResidue?, plain, modified]

/-! ## One step -/

/-- The generators that the bits of `top` choose, added up. -/
def chosenGenerators (top : UInt32) : Nat → List UInt32 → UInt32
  | _, [] => 0
  | place, generator :: rest =>
      (if (top >>> place.toUInt32) &&& 1 = 1 then generator else 0) ^^^
        chosenGenerators top (place + 1) rest

theorem addGenerators_eq_pure (top : UInt32) {place : Nat} {list : List UInt32}
    (room : place + list.length ≤ 32) (register : UInt32) :
    addGenerators top place list register =
      pure (register ^^^ chosenGenerators top place list) := by
  induction list generalizing place register with
  | nil => rw [addGenerators, chosenGenerators, UInt32.xor_zero]
  | cons generator rest ih =>
      rw [List.length_cons] at room
      rw [addGenerators, shiftRight_eq_pure (by omega), pure_bind, ih (by omega),
        chosenGenerators, ← UInt32.xor_assoc]
      split
      · rfl
      · rw [UInt32.xor_zero]

theorem chosenGenerators_widen (top : Word) :
    chosenGenerators top.widen 0 generators = (Residue.feedback top).widen := by
  revert top
  decide

theorem guardedStep_widen (residue : Residue) :
    guardedStep residue.widen = pure residue.step.widen := by
  have bound := residue.isLt
  have top : residue.widen >>> (25 : Nat).toUInt32 =
      Word.widen (residue.extractLsb' 25 5) := by
    rw [← UInt32.toNat_inj, Register.toNat_shiftRight _ (by decide),
      Residue.toNat_widen, Word.toNat_widen, BitVec.extractLsb'_toNat,
      Nat.shiftRight_eq_div_pow]
    omega
  have kept : (residue.widen &&& 0x1ffffff).toNat = residue.toNat % 2 ^ 25 := by
    exact (toNat_and_ones _ (by decide : 25 < 32)).trans (by rw [Residue.toNat_widen])
  have room : (residue.widen &&& 0x1ffffff).toNat * 2 ^ 5 < 2 ^ 32 := by
    omega
  have moved : (residue.widen &&& 0x1ffffff) <<< (5 : Nat).toUInt32 =
      Residue.widen (residue <<< 5) := by
    rw [← UInt32.toNat_inj, Register.toNat_shiftLeft (by decide) room, kept,
      Residue.toNat_widen, BitVec.toNat_shiftLeft, Nat.shiftLeft_eq]
    omega
  rw [guardedStep, shiftRight_eq_pure (by decide), pure_bind,
    shiftLeft_eq_pure (by decide) room, Guarded.pure_bind,
    addGenerators_eq_pure _ (by decide), top, moved, chosenGenerators_widen,
    ← Residue.widen_xor]
  rfl

/-! ## Lists of bytes -/

/-- The words of a human-readable part in ASCII are those of its bytes. -/
theorem expansion_asciiBytes {hrp : List Char}
    (ascii : ∀ character ∈ hrp, character.toNat < 128) :
    expansion (Text.asciiBytes hrp) = expandHrp hrp := by
  have words (word : Nat → Word) :
      (Text.asciiBytes hrp).map (fun byte => word byte.toNat) =
        hrp.map fun character => word character.toNat := by
    rw [Text.asciiBytes, List.map_map]
    exact List.map_congr_left fun character member =>
      congrArg word (Text.toNat_asciiByte (ascii character member))
  rw [expansion, expandHrp, words fun code => BitVec.ofNat 5 (code / 32),
    words (BitVec.ofNat 5)]

theorem guardedAbsorbAll_eq_pure {part : UInt8 → Guarded Error UInt32}
    {word : UInt8 → Word} {bytes : List UInt8}
    (taken : ∀ byte ∈ bytes, part byte = pure (word byte).widen)
    (residue : Residue) :
    guardedAbsorbAll part residue.widen bytes =
      pure (residue.absorbAll (bytes.map word)).widen := by
  induction bytes generalizing residue with
  | nil => rfl
  | cons byte rest ih =>
      rw [guardedAbsorbAll, guardedStep_widen, pure_bind,
        taken byte List.mem_cons_self, pure_bind, ← Residue.widen_xor_word,
        List.map_cons, Residue.absorbAll_cons]
      exact ih (fun other member => taken other (List.mem_cons_of_mem _ member)) _

/-- Both passes over a human-readable part take in the words that stand for its
bytes. -/
theorem guardedResidue_eq_pure (bytes : List UInt8) :
    guardedResidue bytes =
      pure (Residue.initial.absorbAll (expansion bytes)).widen := by
  have highTaken (byte : UInt8) :
      (shiftRight byte.toUInt32 5 : Guarded Error UInt32) =
        pure (Word.widen (BitVec.ofNat 5 (byte.toNat / 32))) := by
    rw [shiftRight_eq_pure (by decide)]
    congr 1
    rw [← UInt32.toNat_inj, Register.toNat_shiftRight _ (by decide), Word.toNat_widen,
      UInt8.toNat_toUInt32, BitVec.toNat_ofNat]
    have bound := byte.toNat_lt
    omega
  have lowTaken (byte : UInt8) :
      byte.toUInt32 &&& 0x1f = Word.widen (BitVec.ofNat 5 byte.toNat) := by
    rw [← UInt32.toNat_inj, Word.toNat_widen, BitVec.toNat_ofNat]
    exact (toNat_and_ones _ (by decide : 5 < 32)).trans
      (by rw [UInt8.toNat_toUInt32])
  have separated (residue : Residue) :
      residue.step.widen = (residue.absorb 0).widen := by
    rw [Residue.absorb]
    simp
  have start : (1 : UInt32) = Residue.initial.widen := rfl
  rw [guardedResidue, start,
    guardedAbsorbAll_eq_pure (fun byte _ => highTaken byte), Guarded.pure_bind,
    guardedStep_widen, Guarded.pure_bind, separated,
    guardedAbsorbAll_eq_pure (fun byte _ => congrArg pure (lowTaken byte)),
    expansion, Residue.absorbAll_append, Residue.absorbAll_cons]

theorem guardedResidue_asciiBytes {hrp : List Char}
    (ascii : ∀ character ∈ hrp, character.toNat < 128) :
    guardedResidue (Text.asciiBytes hrp) = pure (residue hrp []).widen := by
  rw [guardedResidue_eq_pure, expansion_asciiBytes ascii, residue, List.append_nil]

end NostrEntities.Bech32
