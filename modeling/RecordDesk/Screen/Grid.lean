import RecordDesk.Text.Blank

/-
  Grids: rows of text under headers, in columns as wide as their widest cell. Cells stand at the
  left, two spaces apart, and no line ends in white space.
-/

namespace RecordDesk.Grid

/-- The number of characters of a cell. -/
def width (cell : String) : Nat := cell.toList.length

/-- Column widths after one more row; cells beyond the last column do not count. -/
def widen (widths : List Nat) (row : List String) : List Nat :=
  (widths.zip row).map (fun (w, cell) => max w (width cell)) ++ widths.drop row.length

/-- The width of every column. -/
def widths (headers : List String) (rows : List (List String)) : List Nat :=
  rows.foldl widen (headers.map width)

/-- A cell filled up with spaces. -/
def pad (cell : String) (w : Nat) : String :=
  cell ++ String.ofList (List.replicate (w - width cell) ' ')

/-- A line of cells; cells beyond the last column are left out. -/
def line (widths : List Nat) (cells : List String) : String :=
  let padded := (cells.zip widths).map fun (cell, w) => pad cell w
  Text.trimEnd (String.intercalate "  " padded) ++ "\n"

/-- The text of a grid: headers, a rule, and a line for each row. -/
def render (headers : List String) (rows : List (List String)) : String :=
  let ws := widths headers rows
  let rule := ws.map fun w => String.ofList (List.replicate w '-')
  String.join (line ws headers :: line ws rule :: rows.map (line ws))

end RecordDesk.Grid
