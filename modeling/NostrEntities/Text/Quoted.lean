import NostrEntities.Text.Unprintable

/-!
# Quoted characters and texts

Messages show a character or a text between quotes so that its ends and its
invisible parts can be seen. Only the quote in use is escaped: a double quote
stands as it is between single quotes, and the other way round.
-/

namespace NostrEntities.Text

/-- One character as it is written between the given quotes. -/
def escaped (quote character : Char) : List Char :=
  match character with
  | '\x00' => ['\\', '0']
  | '\t' => ['\\', 't']
  | '\n' => ['\\', 'n']
  | '\r' => ['\\', 'r']
  | '\\' => ['\\', '\\']
  | _ =>
      if character = quote then ['\\', quote]
      else if isUnprintable character then
        ['\\', 'u', '\x7b'] ++ Nat.toDigits 16 character.toNat ++ ['\x7d']
      else [character]

/-- A character between single quotes. -/
def quotedCharacter (character : Char) : String :=
  String.ofList (['\''] ++ escaped '\'' character ++ ['\''])

/-- A text between double quotes. -/
def quotedText (text : String) : String :=
  String.ofList (['"'] ++ text.toList.flatMap (escaped '"') ++ ['"'])

end NostrEntities.Text
