import Isolation.Text.Width

/-!
# Tables

A table in plain text: rules of dashes above the header, between any two rows and below the last
one, bars between the columns, and a blank on either side of each cell. A column is as wide as its
widest line; shorter lines are filled with blanks on the right.
-/

namespace Isolation.Text

/-- The lines of a cell. -/
def cellLines (cell : String) : List (List Char) :=
  cell.toList.splitOn '\n'

/-- The width of a cell: that of its widest line. -/
def cellWidth (cell : String) : Nat :=
  ((cellLines cell).map width).foldl max 0

/-- A line filled with blanks on the right up to a width. -/
def padTo (columns : Nat) (line : List Char) : List Char :=
  line ++ List.replicate (columns - width line) ' '

/-- Rows of cells under a header; every row has as many cells as the header. -/
structure Table where
  header : List String
  rows : List (List String)

namespace Table

/-- The header and the rows. -/
def lines (table : Table) : List (List String) :=
  table.header :: table.rows

/-- The widths of the columns. -/
def columnWidths (table : Table) : List Nat :=
  table.rows.foldl (fun widths row => List.zipWith max widths (row.map cellWidth))
    (table.header.map cellWidth)

/-- The rule between rows. -/
def rule (widths : List Nat) : List Char :=
  '+' :: widths.flatMap fun columns => List.replicate (columns + 2) '-' ++ ['+']

/-- One line of text of a row. -/
def rowLine (widths : List Nat) (row : List String) (index : Nat) : List Char :=
  '|' :: (List.zip widths row).flatMap fun (columns, cell) =>
    ' ' :: padTo columns ((cellLines cell)[index]?.getD []) ++ [' ', '|']

/-- The lines of text of a row; it is as high as its highest cell. -/
def rowLines (widths : List Nat) (row : List String) : List (List Char) :=
  let height := (row.map fun cell => (cellLines cell).length).foldl max 0
  (List.range height).map (rowLine widths row)

/-- The text of a table, without a line end after the last rule. -/
def render (table : Table) : String :=
  let widths := table.columnWidths
  let body := table.lines.flatMap fun row => rowLines widths row ++ [rule widths]
  .ofList (['\n'].intercalate (rule widths :: body))

end Table

end Isolation.Text
