import TransitForecast.Text.Split
import TransitForecast.Text.Width

/-!
# TransitForecast — tables on a terminal

A table with a line of titles, drawn with rounded corners. Columns are as wide as their
widest line, and a cell with line breaks takes several lines.
-/

namespace TransitForecast.Console

/-- The lines of a cell. -/
def cellLines (cell : String) : List String := (splitOnElement '\n' cell.toList).map String.ofList

/-- Columns that a cell takes. -/
def cellWidth (cell : String) : Nat :=
  (cellLines cell).foldl (fun n line => max n (Text.columns line)) 0

/-- Widths of the columns of some rows: the greatest width of each. -/
def columnWidths (rows : List (List String)) : List Nat :=
  rows.foldl (fun widths row => row.mapIdx fun i cell => max (cellWidth cell) (widths.getD i 0)) []

/-- A text and blanks up to a width. -/
def fill (width : Nat) (line : String) : String :=
  line ++ String.ofList (List.replicate (width - Text.columns line) ' ')

/-- A horizontal line across columns. -/
def rule (left middle right : String) (widths : List Nat) : String :=
  let spans := widths.map fun w => String.join (List.replicate (w + 2) "─")
  left ++ String.intercalate middle spans ++ right

/-- One line of a row. -/
def rowLine (widths : List Nat) (cells : List String) : String :=
  "│" ++ String.join ((widths.zip cells).map fun c => " " ++ fill c.1 c.2 ++ " │")

/-- The lines of a row. -/
def rowLines (widths : List Nat) (row : List String) : List String :=
  let cells := row.map cellLines
  let height := cells.foldl (fun n lines => max n lines.length) 1
  (List.range height).map fun i => rowLine widths (cells.map fun lines => lines.getD i "")

/-- The lines of a table. -/
def grid (titles : List String) (rows : List (List String)) : List String :=
  let widths := columnWidths (titles :: rows)
  [rule "╭" "┬" "╮" widths] ++ rowLines widths titles ++ [rule "├" "┼" "┤" widths] ++
    rows.flatMap (rowLines widths) ++ [rule "╰" "┴" "╯" widths]

end TransitForecast.Console
