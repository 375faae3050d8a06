import NostrEntities.Text.Emoji
import NostrEntities.Text.Ligature

/-!
# Terminal columns of a line

A line takes the columns of its characters, but characters that are drawn as one
take the columns of the whole. It is measured from its end, with the part of a
group that has been met so far. A table counts the characters of a colour
sequence `ESC [ … m` as hidden: one column for each that would have any, but for
the escape. A line that hides more columns than it takes has no place in a table.
-/

namespace NostrEntities.Text

/-- A variation selector, which asks for one of two presentations of the character
before it. -/
inductive Selector where
  | text
  | picture
  deriving DecidableEq, Repr

/-- The variation selector that a character is. -/
def Selector.ofChar? (character : Char) : Option Selector :=
  if character = '\ufe0e' then some .text
  else if character = '\ufe0f' then some .picture
  else none

/-- The part of a group of characters that stands to the right of a character. -/
inductive Group where
  | nothing
  | ligature (tail : Ligature)
  | emoji (tail : EmojiTail)
  deriving DecidableEq, Repr

namespace Group

/-- The group that a character can end. -/
def ofChar (character : Char) : Group :=
  match Ligature.start? character with
  | some tail => .ligature tail
  | none => (EmojiTail.start? character).elim .nothing .emoji

/-- What a character before a group adds to its columns, and the group that the
two form, unless the character stays apart. -/
def absorb? (group : Group) (character : Char) : Option (Int × Group) :=
  match group with
  | .nothing => none
  | .ligature tail =>
      (tail.absorb? character).map fun (added, rest) =>
        (added, rest.elim .nothing .ligature)
  | .emoji tail =>
      (tail.absorb? character).map fun (added, rest) => (added, .emoji rest)

/-- Whether a picture that a variation selector makes can be the next of a chain
in the group. -/
def admitsPicture : Group → Bool
  | .emoji tail => tail.admitsPicture
  | _ => false

/-- The group without the pictures in it. -/
def withoutPictures : Group → Group
  | .ligature tail => .ligature tail
  | _ => .nothing

/-- What is left of a group before a variation selector. The one for text breaks a
chain of pictures. -/
def select (group : Group) : Selector → Group
  | .text => group.withoutPictures
  | .picture => if group.admitsPicture then group else group.withoutPictures

end Group

/-- What stands to the right of a character: a group and before it perhaps a
variation selector. -/
structure Context where
  group : Group := .nothing
  selector : Option Selector := none
  deriving DecidableEq, Repr

namespace Context

/-- The columns that a character adds directly before a group, and the context it
makes. Up to the no-break space every character takes one column, controls
included. -/
def beforeGroup (group : Group) (character : Char) : Int × Context :=
  if character ≤ '\u00a0' then (1, {})
  else
    match Selector.ofChar? character with
    | some selector => (0, ⟨group.select selector, some selector⟩)
    | none =>
        match group.absorb? character with
        | some (added, group) => (added, ⟨group, none⟩)
        | none => (columns character, ⟨.ofChar character, none⟩)

/-- The columns that a character adds to what stands on its right. A variation
selector decides the columns of the characters that have the presentation it asks
for, and lets all others stand as they are. -/
def before (context : Context) (character : Char) : Int × Context :=
  match context.selector with
  | some .picture =>
      if pictureSequenceRanges.contains character then
        (if context.group.admitsPicture then 0 else 2, ⟨.emoji .picture, none⟩)
      else beforeGroup context.group.withoutPictures character
  | some .text =>
      if textSequenceRanges.contains character then (1, {})
      else beforeGroup context.group character
  | none => beforeGroup context.group character

end Context

/-- Columns that the characters of a line take, and the context that they make for
a character before them. -/
def measure (line : List Char) : Int × Context :=
  line.foldr
    (fun character (total, context) =>
      let (added, context) := context.before character
      (total + added, context))
    (0, {})

/-- Columns that the characters of a line take. -/
def drawnColumns (line : String) : Nat :=
  (measure line.toList).1.toNat

/-- Where a reader of a line stands with respect to a colour sequence. -/
inductive ColourState where
  | outside
  | escaped
  | inside
  deriving DecidableEq, Repr

/-- The state after one character, and whether that character is a part of a
colour sequence after its escape. -/
def ColourState.next : ColourState → Char → ColourState × Bool
  | .outside, character =>
      (if character = '\x1b' then .escaped else .outside, false)
  | .escaped, character =>
      if character = '[' then (.inside, true) else (.outside, false)
  | .inside, character =>
      (if character = 'm' then .outside else .inside, true)

/-- How many characters with columns are parts of colour sequences, from a given
state on. -/
def hiddenFrom : ColourState → List Char → Nat
  | _, [] => 0
  | state, character :: rest =>
      let (following, hidden) := state.next character
      (if hidden && 0 < columns character then 1 else 0) + hiddenFrom following rest

/-- Columns that a line hides. A wide character hides one like any other. -/
def hiddenColumns (line : String) : Nat :=
  hiddenFrom .outside line.toList

/-- Columns of a line in a table, if it does not hide more than it takes. -/
def lineColumns? (line : String) : Option Nat :=
  if hiddenColumns line ≤ drawnColumns line then
    some (drawnColumns line - hiddenColumns line)
  else none

end NostrEntities.Text
