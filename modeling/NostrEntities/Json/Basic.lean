/-!
# JSON values

The values in which forms are exchanged. Numbers are integers, since no form has
any other, and the members of an object keep the order in which they are written.
-/

namespace NostrEntities

/-- A JSON value. -/
inductive Json where
  | null
  | bool (value : Bool)
  | number (value : Int)
  | text (value : String)
  | array (items : List Json)
  | object (members : List (String × Json))
  deriving Inhabited

namespace Json

/-- The value of an optional member. -/
def ofOption : Option Json → Json
  | some value => value
  | none => .null

/-- A member that is written only when it has a value. -/
def optionalMember (name : String) (value : Option Json) : List (String × Json) :=
  value.toList.map fun value => (name, value)

/-- A list of texts. -/
def ofTexts (texts : List String) : Json :=
  .array (texts.map .text)

/-- The first member of a name. -/
def member? (members : List (String × Json)) (name : String) : Option Json :=
  members.lookup name

end Json

end NostrEntities
