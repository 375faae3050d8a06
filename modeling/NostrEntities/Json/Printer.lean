import NostrEntities.Json.Basic

/-!
# Written JSON

A value is written either on one line without blanks, or with every item and
every member on a line of its own, two blanks deeper than what encloses it. In
texts only quotes, backslashes and controls are escaped.
-/

namespace NostrEntities.Json

/-- One character of a text as it is written between quotes. -/
def escaped (character : Char) : List Char :=
  match character with
  | '"' => ['\\', '"']
  | '\\' => ['\\', '\\']
  | '\x08' => ['\\', 'b']
  | '\x0c' => ['\\', 'f']
  | '\n' => ['\\', 'n']
  | '\r' => ['\\', 'r']
  | '\t' => ['\\', 't']
  | _ =>
      if character.toNat < 0x20 then
        ['\\', 'u', '0', '0', Nat.digitChar (character.toNat / 16),
          Nat.digitChar (character.toNat % 16)]
      else [character]

/-- A text between quotes. -/
def quoted (text : String) : String :=
  String.ofList (['"'] ++ text.toList.flatMap escaped ++ ['"'])

/-- Items between an opening and a closing bracket, on one line. -/
def inLine (opening closing : String) (items : List String) : String :=
  opening ++ ",".intercalate items ++ closing

/-- The start of a line at a depth. -/
def newLine (depth : Nat) : String :=
  String.ofList ('\n' :: List.replicate (2 * depth) ' ')

/-- Items between an opening and a closing bracket, one a line. -/
def inLines (depth : Nat) (opening closing : String) (items : List String) :
    String :=
  if items.isEmpty then opening ++ closing
  else
    opening ++ newLine (depth + 1) ++
      ("," ++ newLine (depth + 1)).intercalate items ++
      newLine depth ++ closing

mutual

/-- Write a value on one line. -/
def compact : Json → String
  | .null => "null"
  | .bool true => "true"
  | .bool false => "false"
  | .number value => toString value
  | .text value => quoted value
  | .array items => inLine "[" "]" (compactItems items)
  | .object members => inLine "\x7b" "\x7d" (compactMembers members)

/-- Write the items of an array. -/
def compactItems : List Json → List String
  | [] => []
  | item :: rest => compact item :: compactItems rest

/-- Write the members of an object. -/
def compactMembers : List (String × Json) → List String
  | [] => []
  | (name, value) :: rest =>
      (quoted name ++ ":" ++ compact value) :: compactMembers rest

end

mutual

/-- Write a value over several lines; `depth` is the depth of the line that it
starts on. -/
def pretty (depth : Nat) : Json → String
  | .null => "null"
  | .bool true => "true"
  | .bool false => "false"
  | .number value => toString value
  | .text value => quoted value
  | .array items => inLines depth "[" "]" (prettyItems (depth + 1) items)
  | .object members =>
      inLines depth "\x7b" "\x7d" (prettyMembers (depth + 1) members)

/-- Write the items of an array. -/
def prettyItems (depth : Nat) : List Json → List String
  | [] => []
  | item :: rest => pretty depth item :: prettyItems depth rest

/-- Write the members of an object. -/
def prettyMembers (depth : Nat) : List (String × Json) → List String
  | [] => []
  | (name, value) :: rest =>
      (quoted name ++ ": " ++ pretty depth value) :: prettyMembers depth rest

end

end NostrEntities.Json
