import NostrEntities.Json.Basic
import NostrEntities.Key

/-!
# Reading forms from JSON

A form is read member by member: members that the form does not know are passed
over, and an optional member may be absent or null. A value fails either because
it does not have the form, or because a text in it is no key.
-/

namespace NostrEntities.Json

/-- Why a value is not read: it does not have the form, or a text in it is not
the digits of a key. -/
inductive FormError where
  | malformed
  | key (error : Bytes32.Error)
  deriving DecidableEq, Repr

/-- The message for a person, where there is one. -/
def FormError.message? : FormError → Option String
  | .malformed => none
  | .key error => some error.message

/-- Read a value in some form. -/
abbrev Reader (α : Type) := Json → Except FormError α

/-- Read a text. -/
def readText : Reader String
  | .text value => .ok value
  | _ => .error .malformed

/-- Read the items of a list one by one. -/
def readEach {α : Type} (read : Reader α) : List Json → Except FormError (List α)
  | [] => .ok []
  | item :: rest => do
      let value ← read item
      let values ← readEach read rest
      return value :: values

/-- Read a list of values of one form. -/
def readList {α : Type} (read : Reader α) : Reader (List α)
  | .array items => readEach read items
  | _ => .error .malformed

/-- Read an event kind, a number of 32 bits. -/
def readEventKind : Reader UInt32
  | .number value =>
      if 0 ≤ value ∧ value < UInt32.size then .ok (UInt32.ofNat value.toNat)
      else .error .malformed
  | _ => .error .malformed

/-- Read a key or an id. -/
def readBytes32 : Reader Bytes32
  | .text value => (Bytes32.ofHex value).mapError .key
  | _ => .error .malformed

/-- Read an object by its members. -/
def readObject {α : Type}
    (read : List (String × Json) → Except FormError α) : Reader α
  | .object members => read members
  | _ => .error .malformed

/-- Read a member that has to be there. -/
def readMember {α : Type} (members : List (String × Json)) (name : String)
    (read : Reader α) : Except FormError α :=
  match member? members name with
  | some value => read value
  | none => .error .malformed

/-- Read a value that may be null. -/
def readNullable {α : Type} (read : Reader α) : Reader (Option α)
  | .null => .ok none
  | value => (read value).map some

/-- Read a member that may be absent or null. -/
def readOptional {α : Type} (members : List (String × Json)) (name : String)
    (read : Reader α) : Except FormError (Option α) :=
  match member? members name with
  | none => .ok none
  | some value => readNullable read value

/-- Read a member that has a default when it is absent. -/
def readOrElse {α : Type} (members : List (String × Json)) (name : String)
    (read : Reader α) (default : α) : Except FormError α :=
  match member? members name with
  | none => .ok default
  | some value => read value

end NostrEntities.Json
