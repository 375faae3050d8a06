import NostrEntities.Text.LineColumns

/-!
# Tables of two columns

A table is drawn with lines around every cell. Both columns are as wide as their
widest cell, measured in terminal columns, and a text of several lines makes its
row as high as it needs. A text that cannot be measured leaves no table.
-/

namespace NostrEntities.Text

/-- The lines of a text. A carriage return belongs to the end of a line when a
line feed follows it, and an end of line at the very end starts no new line. -/
def splitLines : List Char → List (List Char)
  | [] => []
  | '\r' :: '\n' :: rest => [] :: splitLines rest
  | '\n' :: rest => [] :: splitLines rest
  | character :: rest =>
      match splitLines rest with
      | [] => [[character]]
      | line :: lines => (character :: line) :: lines

/-- A line of a cell with the columns it takes. -/
structure CellLine where
  text : String
  columns : Nat
  deriving DecidableEq, Repr

/-- A line without characters. -/
def CellLine.empty : CellLine := ⟨"", 0⟩

/-- A line, measured. -/
def CellLine.ofText? (text : String) : Option CellLine :=
  (lineColumns? text).map fun columns => ⟨text, columns⟩

/-- The measured lines of a text. -/
abbrev Cell := List CellLine

/-- A text, measured line by line. -/
def Cell.ofText? (text : String) : Option Cell :=
  (splitLines text.toList).mapM fun line => CellLine.ofText? (String.ofList line)

/-- The largest of some numbers, or zero. -/
def largest (numbers : List Nat) : Nat :=
  numbers.foldl max 0

/-- Columns that a cell takes. -/
def Cell.width (cell : Cell) : Nat :=
  largest (cell.map CellLine.columns)

/-- A row: a label and a value. -/
structure Row where
  label : Cell
  value : Cell
  deriving DecidableEq, Repr

/-- A row of two texts, measured. -/
def Row.ofTexts? (texts : String × String) : Option Row := do
  let label ← Cell.ofText? texts.1
  let value ← Cell.ofText? texts.2
  return ⟨label, value⟩

/-- One line of a cell with a blank on both sides, filled up to a width. -/
def CellLine.padded (line : CellLine) (width : Nat) : String :=
  " " ++ line.text ++ String.ofList (List.replicate (width - line.columns) ' ') ++
    " "

/-- The line between two rows. -/
def ruler (labelWidth valueWidth : Nat) : String :=
  let dashes (width : Nat) := String.ofList (List.replicate (width + 2) '-')
  "+" ++ dashes labelWidth ++ "+" ++ dashes valueWidth ++ "+\n"

/-- The lines of a row. -/
def Row.render (row : Row) (labelWidth valueWidth : Nat) : String :=
  let height := largest [1, row.label.length, row.value.length]
  String.join <| (List.range height).map fun index =>
    "|" ++ (row.label.getD index .empty).padded labelWidth ++
      "|" ++ (row.value.getD index .empty).padded valueWidth ++ "|\n"

/-- Draw measured rows. -/
def renderRows (rows : List Row) : String :=
  let labelWidth := largest (rows.map fun row => row.label.width)
  let valueWidth := largest (rows.map fun row => row.value.width)
  let line := ruler labelWidth valueWidth
  line ++ String.join (rows.map fun row => row.render labelWidth valueWidth ++ line)

/-- Draw a table, if its texts can be measured. -/
def table? (rows : List (String × String)) : Option String :=
  (rows.mapM Row.ofTexts?).map renderRows

end NostrEntities.Text
