import NostrEntities.Bech32.Checksum
import NostrEntities.Text.Case

/-!
# Checksummed texts

A text has a human-readable part, the separator `1`, and a data part in symbols
that ends in the checksum. The separator is the last `1` of the text, since no
symbol is a `1`. Writing produces lower case; reading accepts one case
throughout and returns the human-readable part in lower case.
-/

namespace NostrEntities.Bech32

/-- What a checksummed text carries. -/
structure Parts where
  hrp : String
  words : List UInt8
  variant : Variant
  deriving DecidableEq, Repr

/-- The character between the two parts. -/
def separator : Char := '1'

/-- Bytes of the shortest text: one character, the separator and the checksum. -/
def minimumLength : Nat := 8

/-- Whether a character may occur in a human-readable part. -/
def isHrpCharacter (character : Char) : Bool :=
  33 ≤ character.toNat && character.toNat ≤ 126

/-- Whether a character is ASCII. -/
def isAscii (character : Char) : Bool :=
  character.toNat < 128

/-- Refuse the first character that is not allowed. -/
def requireAll (allowed : Char → Bool) (characters : List Char) :
    Except Error Unit :=
  match characters.find? (fun character => !allowed character) with
  | some character => .error (.invalidCharacter character)
  | none => .ok ()

theorem requireAll_eq_ok_iff {allowed : Char → Bool} {characters : List Char} :
    requireAll allowed characters = .ok () ↔
      ∀ character ∈ characters, allowed character = true := by
  unfold requireAll
  split
  · rename_i offender found
    have refused := List.find?_some found
    have member := List.mem_of_find?_eq_some found
    simp only [reduceCtorEq, false_iff]
    intro every
    simp [every offender member] at refused
  · rename_i absent
    simpa using absent

/-- Refuse a length above the limit. -/
def requireWithin (limit length : Nat) : Except Error Unit :=
  if limit < length then .error (.lengthExceeded length limit) else .ok ()

theorem requireWithin_eq_ok_iff {limit length : Nat} :
    requireWithin limit length = .ok () ↔ length ≤ limit := by
  unfold requireWithin
  split <;> simp <;> omega

/-- Refuse a human-readable part that cannot be written. The first character at
fault decides: one that may not occur at all, or an upper case letter, which
would not agree with the lower case symbols. -/
def requireWritable : List Char → Except Error Unit
  | [] => .ok ()
  | character :: rest =>
      if !isHrpCharacter character then .error (.invalidCharacter character)
      else if character.isUpper then .error .mixedCase
      else requireWritable rest

theorem requireWritable_eq_ok_iff {hrp : List Char} :
    requireWritable hrp = .ok () ↔
      ∀ character ∈ hrp,
        isHrpCharacter character = true ∧ character.isUpper = false := by
  induction hrp with
  | nil => simp [requireWritable]
  | cons character rest ih =>
      unfold requireWritable
      cases allowed : isHrpCharacter character <;>
        cases upper : character.isUpper <;> simp [allowed, upper, ih]

/-- Refuse an empty human-readable part. -/
def requireNonempty (hrp : List Char) : Except Error Unit :=
  if hrp.isEmpty then .error .emptyHrp else .ok ()

/-- Length of the text for a human-readable part and a number of words. -/
def encodedLength (hrp : List Char) (wordCount : Nat) : Nat :=
  hrp.length + 1 + wordCount + checksumLength

/-- The text of a human-readable part and words, without any check. -/
def assemble (hrp : List Char) (words : List Word) (variant : Variant) :
    List Char :=
  hrp ++ separator :: (words ++ checksum hrp words variant).map Word.symbol

@[simp] theorem length_assemble (hrp : List Char) (words : List Word)
    (variant : Variant) :
    (assemble hrp words variant).length = encodedLength hrp words.length := by
  simp [assemble, encodedLength]
  omega

/-- Write a text of at most `limit` bytes. -/
def encode (limit : Nat) (parts : Parts) : Except Error String := do
  let hrp := parts.hrp.toList
  requireNonempty hrp
  requireWritable hrp
  requireWithin limit (encodedLength hrp parts.words.length)
  let words ← Word.ofBytes parts.words
  return String.ofList (assemble hrp words parts.variant)

/-- Split at the last separator, if there is one. -/
def splitAtSeparator? : List Char → Option (List Char × List Char)
  | [] => none
  | character :: rest =>
      match splitAtSeparator? rest with
      | some (before, after) => some (character :: before, after)
      | none => if character = separator then some ([], rest) else none

/-- A text without a separator cannot be split. -/
theorem splitAtSeparator?_of_not_mem {characters : List Char}
    (absent : separator ∉ characters) : splitAtSeparator? characters = none := by
  induction characters with
  | nil => rfl
  | cons character rest ih =>
      simp only [List.mem_cons, not_or] at absent
      simp [splitAtSeparator?, ih absent.2, Ne.symm absent.1]

theorem not_mem_of_splitAtSeparator? {characters : List Char}
    (failed : splitAtSeparator? characters = none) : separator ∉ characters := by
  induction characters with
  | nil => simp
  | cons character rest ih =>
      unfold splitAtSeparator? at failed
      split at failed
      · cases failed
      · rename_i restFailed
        split at failed
        · cases failed
        · rename_i different
          simp only [List.mem_cons, not_or]
          exact ⟨Ne.symm different, ih restFailed⟩

/-- The split is at the last separator: the part after it has none. -/
theorem splitAtSeparator?_eq_some_iff {characters hrp data : List Char} :
    splitAtSeparator? characters = some (hrp, data) ↔
      characters = hrp ++ separator :: data ∧ separator ∉ data := by
  constructor
  · intro found
    induction characters generalizing hrp with
    | nil => cases found
    | cons character rest ih =>
        unfold splitAtSeparator? at found
        split at found
        · rename_i before after restFound
          cases found
          obtain ⟨rfl, absent⟩ := ih restFound
          exact ⟨rfl, absent⟩
        · rename_i restFailed
          split at found
          · rename_i same
            cases found
            exact ⟨by rw [same, List.nil_append],
              not_mem_of_splitAtSeparator? restFailed⟩
          · cases found
  · rintro ⟨rfl, absent⟩
    induction hrp with
    | nil =>
        simp [splitAtSeparator?, splitAtSeparator?_of_not_mem absent]
    | cons character rest ih => simp [splitAtSeparator?, ih]

/-- The two parts of a text as they are written. -/
def separate (characters : List Char) :
    Except Error (List Char × List Char) :=
  match splitAtSeparator? characters with
  | none => .error .missingSeparator
  | some (hrp, data) =>
      if hrp.isEmpty then .error .emptyHrp else .ok (hrp, data)

/-- Refuse a text or a data part that is shorter than it can be. The message
counts the whole text in both cases. -/
def requireLongEnough (minimum length textLength : Nat) : Except Error Unit :=
  if length < minimum then .error (.tooShort textLength) else .ok ()

/-- Refuse upper case next to lower case. -/
def requireSingleCase (characters : List Char) : Except Error Unit :=
  if Text.isMixedCase characters then .error .mixedCase else .ok ()

/-- Match the residue of a text against the variants, and take the checksum off
its words. -/
def verify (hrp : List Char) (words : List Word) : Except Error Parts :=
  match Variant.ofResidue? (residue hrp words) with
  | none => .error .invalidChecksum
  | some variant =>
      .ok {
        hrp := String.ofList hrp
        words := (words.take (words.length - checksumLength)).map Word.toByte
        variant }

/-- Read a text of at most `limit` bytes. -/
def decode (limit : Nat) (text : String) : Except Error Parts := do
  let size := text.utf8ByteSize
  requireWithin limit size
  requireLongEnough minimumLength size size
  requireAll isAscii text.toList
  let (hrp, data) ← separate text.toList
  requireLongEnough checksumLength data.length size
  requireAll isHrpCharacter hrp
  requireAll Word.isSymbol data
  requireSingleCase (hrp ++ data)
  verify (Text.lowered hrp) (Word.ofSymbols data)

end NostrEntities.Bech32
