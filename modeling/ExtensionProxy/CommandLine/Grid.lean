import ExtensionProxy.Text.Lines
import ExtensionProxy.Text.Width

/-!
# Grids

A table drawn with characters: a rule above and below every row, cells between bars.  Every column
is as wide as its widest line, a row is as high as its highest cell, and texts stand to the left
and at the top.  A tab counts as one column, wherever it stands.
-/

set_option autoImplicit false

namespace ExtensionProxy.CommandLine

/-- A cell: its lines. -/
abbrev Cell := List (List Char)

/-- The cell that shows a text. -/
def Cell.ofText (text : String) : Cell := splitEvery '\n' text.toList

/-- The width of the widest line. -/
def Cell.width (cell : Cell) : Nat := (cell.map textWidth).foldl max 0

/-- A line filled up with blanks to a width; a wider line stays as it is. -/
def padLine (width : Nat) (line : List Char) : List Char :=
  line ++ List.replicate (width - textWidth line) ' '

/-- The width of every column. -/
def columnWidths : List (List Cell) → List Nat
  | [] => []
  | [row] => row.map Cell.width
  | row :: rest => List.zipWith max (row.map Cell.width) (columnWidths rest)

/-- The rule between rows. -/
def gridRule (widths : List Nat) : String :=
  String.ofList ('+' :: widths.flatMap fun width => List.replicate (width + 2) '-' ++ ['+'])

/-- One line of a row, from the line of every cell. -/
def gridLine (widths : List Nat) (lines : List (List Char)) : String :=
  String.ofList ('|' :: (widths.zip lines).flatMap fun (width, line) =>
    ' ' :: padLine width line ++ [' ', '|'])

/-- The lines of a row; cells that have fewer lines are empty below. -/
def rowLines (widths : List Nat) (row : List Cell) : List String :=
  let height := (row.map List.length).foldl max 0
  (List.range height).map fun place => gridLine widths (row.map fun cell => cell.getD place [])

/-- A grid of rows of one length. -/
def drawGrid (rows : List (List String)) : String :=
  let cells := rows.map fun row => row.map Cell.ofText
  let widths := columnWidths cells
  let rule := gridRule widths
  "\n".intercalate (rule :: cells.flatMap fun row => rowLines widths row ++ [rule])

end ExtensionProxy.CommandLine
