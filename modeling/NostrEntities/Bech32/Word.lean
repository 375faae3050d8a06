import NostrEntities.Bech32.Error

/-!
# Words and their symbols

A word is five bits. Each of the 32 words has one lower case symbol, and a symbol
may be read in either case. Words travel to and from callers as bytes, since that
is what regrouping produces and what a caller may get wrong.
-/

namespace NostrEntities.Bech32

/-- Five bits, the unit of the data part. -/
abbrev Word := BitVec 5

namespace Word

/-- The symbols in the order of the words they stand for. The order keeps
symbols that look alike at a distance of one bit. -/
def alphabet : List Char :=
  ['q', 'p', 'z', 'r', 'y', '9', 'x', '8', 'g', 'f', '2', 't', 'v', 'd', 'w', '0',
    's', '3', 'j', 'n', '5', '4', 'k', 'h', 'c', 'e', '6', 'm', 'u', 'a', '7', 'l']

@[simp] theorem length_alphabet : alphabet.length = 32 := rfl

/-- The lower case symbol of a word. -/
def symbol (word : Word) : Char :=
  alphabet.get ⟨word.toNat, by simpa using word.isLt⟩

/-- The word that a symbol stands for, in either case. -/
def ofSymbol? (character : Char) : Option Word :=
  (alphabet.idxOf? character.toLower).map (BitVec.ofNat 5)

/-- Whether a character is a symbol, in either case. -/
def isSymbol (character : Char) : Bool :=
  (ofSymbol? character).isSome

/-- The words that a list of symbols stands for. Other characters are passed
over, so callers look for them first. -/
def ofSymbols (characters : List Char) : List Word :=
  characters.filterMap ofSymbol?

/-- A word as a byte. -/
def toByte (word : Word) : UInt8 :=
  ⟨word.setWidth 8⟩

/-- The low five bits of a byte. -/
def ofByte (byte : UInt8) : Word :=
  byte.toBitVec.setWidth 5

/-- Bytes that are words, or the first one that is too large. -/
def ofBytes (bytes : List UInt8) : Except Error (List Word) :=
  match bytes.find? (32 ≤ ·) with
  | some byte => .error (.invalidWord byte)
  | none => .ok (bytes.map ofByte)

@[simp] theorem ofSymbol?_symbol (word : Word) :
    ofSymbol? word.symbol = some word := by
  revert word
  decide

@[simp] theorem ofByte_toByte (word : Word) : ofByte word.toByte = word := by
  revert word
  decide

@[simp] theorem ofSymbols_map_symbol (words : List Word) :
    ofSymbols (words.map symbol) = words := by
  induction words with
  | nil => rfl
  | cons word rest ih =>
      rw [List.map_cons, ofSymbols, List.filterMap_cons_some (ofSymbol?_symbol word)]
      exact congrArg (word :: ·) ih

end Word

end NostrEntities.Bech32
