import NostrEntities.Text.Quoted

/-!
# Structured accounts of failures

A failure has a cause with a few particulars, and it may have travelled through
layers on its way out. `Diagnostic` keeps the three apart, so that one value can
be printed in full for a person and matched by its path of names.
-/

namespace NostrEntities

/-- One particular of a failure. -/
inductive Detail where
  | number (value : Nat)
  | character (value : Char)
  | text (value : String)
  | word (value : String)
  deriving DecidableEq, Repr

/-- The written form: texts and characters are quoted, numbers and words are
not. -/
def Detail.render : Detail → String
  | .number value => toString value
  | .character value => Text.quotedCharacter value
  | .text value => Text.quotedText value
  | .word value => value

/-- The particulars of a failure: none, one that needs no name, or several with
their names. -/
inductive Particulars where
  | none
  | single (detail : Detail)
  | named (details : List (String × Detail))
  deriving DecidableEq, Repr

/-- A cause with its particulars, under the layers that passed it on. -/
inductive Diagnostic where
  | cause (name : String) (particulars : Particulars)
  | within (layer : String) (inner : Diagnostic)
  deriving DecidableEq, Repr

namespace Particulars

/-- The written form that follows the name of the cause. -/
def render : Particulars → String
  | .none => ""
  | .single detail => "(" ++ detail.render ++ ")"
  | .named details =>
      " \x7b " ++
        ", ".intercalate (details.map fun (name, detail) =>
          name ++ ": " ++ detail.render) ++
        " \x7d"

end Particulars

namespace Diagnostic

/-- Layers from the outermost on, then the cause. -/
def path : Diagnostic → List String
  | .cause name _ => [name]
  | .within layer inner => layer :: inner.path

/-- The written form: every layer encloses what it passed on. -/
def render : Diagnostic → String
  | .cause name particulars => name ++ particulars.render
  | .within layer inner => layer ++ "(" ++ inner.render ++ ")"

end Diagnostic

/-- A cause without particulars. -/
abbrev Diagnostic.plain (name : String) : Diagnostic :=
  .cause name .none

end NostrEntities
