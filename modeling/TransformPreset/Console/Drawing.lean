import TransformPreset.Console.Table

/-!
# Drawn tables

A table is drawn in a frame: its title in the middle above, a heavy frame around the names of the
columns and a light one around the rows. A cell has a blank on either side.
-/

namespace TransformPreset

/-- The given number of blanks. -/
def blanks (count : Nat) : String :=
  String.ofList (List.replicate count ' ')

/-- A text with blanks around it, centred in a width. -/
def centred (width : Nat) (text : String) : String :=
  let room := width - textWidth text.toList
  blanks (room / 2) ++ text ++ blanks (room - room / 2)

/-- A cell of a column in a width, with a blank on either side. -/
def ScreenColumn.cellText (column : ScreenColumn) (width : Nat) (cell : String) : String :=
  let room := blanks (width - textWidth cell.toList)
  " " ++ (if column.atRight then room ++ cell else cell ++ room) ++ " "

/-- A line of a frame: a stroke over each column, and strokes at the left, between, and right. -/
def frameLine (widths : List Nat) (stroke : Char) (left between right : String) : String :=
  left ++ between.intercalate (widths.map fun n => String.ofList (List.replicate (n + 2) stroke)) ++
    right

namespace ScreenTable

/-- A row with a stroke between the cells and at both ends. -/
def rowLine (columns : List (ScreenColumn × Nat)) (stroke : String) (row : List String) : String :=
  let cells := (columns.zip row).map fun ((column, width), cell) => column.cellText width cell
  stroke ++ stroke.intercalate cells ++ stroke

/-- The lines of the drawn table. -/
def lines (table : ScreenTable) : List String :=
  let widths := table.columns.map Prod.snd
  let top := frameLine widths '━' "┏" "┳" "┓"
  let header := rowLine table.columns "┃" (table.columns.map fun (column, _) => column.name)
  let below := frameLine widths '━' "┡" "╇" "┩"
  let bottom := frameLine widths '─' "└" "┴" "┘"
  centred top.length table.title :: top :: header :: below ::
    table.rows.map (rowLine table.columns "│") ++ [bottom]

end ScreenTable

/-- The lines of a thing on the screen. -/
def ScreenItem.lines : ScreenItem → List String
  | .line text => [text]
  | .table drawn => drawn.lines

end TransformPreset
