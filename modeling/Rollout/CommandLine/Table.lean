import Rollout.Text.Width

/-!
# Tables

* `Table.render`: rows of cells in a frame of dashes and bars, columns as wide as their widest
  line.
-/

namespace Rollout.CommandLine.Table

/-- The lines of a cell. -/
def cellLines (s : String) : List (List Char) := s.toList.splitOn '\n'

/-- The columns that a cell needs. -/
def cellWidth (s : String) : Nat := ((cellLines s).map Text.columns).foldl max 0

/-- The columns that each cell of some rows needs. -/
def widths (rows : List (List String)) : List Nat :=
  rows.foldl (fun ws row => List.zipWith max ws (row.map cellWidth))
    ((rows.headD []).map fun _ => 0)

/-- A line between two rows. -/
def ruler (ws : List Nat) : String :=
  "+" ++ String.join (ws.map fun w => String.ofList (List.replicate (w + 2) '-') ++ "+")

/-- A line of a cell, filled up with blanks. -/
def padded (w : Nat) (line : List Char) : String :=
  " " ++ String.ofList (line ++ List.replicate (w - Text.columns line) ' ') ++ " |"

/-- The lines of a row; cells with fewer lines are filled up below. -/
def rowLines (ws : List Nat) (row : List String) : List String :=
  let cells := row.map cellLines
  let height := (cells.map List.length).foldl max 1
  (List.range height).map fun i =>
    "|" ++ String.join (List.zipWith (fun w lines => padded w (lines.getD i [])) ws cells)

/-- Rows in a frame, without a line end after the last line. -/
def render (rows : List (List String)) : String :=
  let ws := widths rows
  String.intercalate "\n"
    (ruler ws :: rows.flatMap fun row => rowLines ws row ++ [ruler ws])

end Rollout.CommandLine.Table
