import TransformPreset.Console.Basic
import TransformPreset.Console.Cell
import TransformPreset.Console.Markup

/-!
# A terminal

A console that shows text on a screen that is as wide as its lines. In a table each column is as
wide as its widest cell, and a row takes as many rows of the screen as its tallest cell has lines.
-/

namespace TransformPreset

namespace ScreenColumn

/-- The texts of the cells of a column, given its place, in rows of markup. -/
def texts (place : Nat) : List (List String) → Except Failure (List StyledText)
  | [] => .ok []
  | row :: rest => do
    let text ← renderMarkup (row.getD place "")
    return text :: (← texts place rest)

/-- The width of a column with cells. -/
def width (column : ScreenColumn) (cells : List StyledText) : Nat :=
  cells.foldl (fun widest cell => max widest (widestLine cell.text)) (textWidth column.name.toList)

/-- The columns from a place on with their widths and the lines of each of their cells. -/
def laid (rows : List (List String)) (place : Nat) :
    List ScreenColumn → Except Failure (List ((ScreenColumn × Nat) × List (List StyledText)))
  | [] => .ok []
  | column :: rest => do
    let cells ← texts place rows
    let room := column.width cells
    return ((column, room), cells.map (cellLines room column.atRight)) ::
      (← laid rows (place + 1) rest)

end ScreenColumn

/-- Checks the styles of the lines of cells. -/
def checkLines : List StyledText → Except Failure Unit
  | [] => .ok ()
  | line :: rest => do
    line.check
    checkLines rest

/-- The rows on the screen of a row with the given cells. -/
def screenRows (cells : List (List StyledText)) : List (List String) :=
  let height := cells.foldl (fun tallest lines => max tallest lines.length) 0
  (List.range height).map fun place =>
    cells.map fun lines => ((lines[place]?.map fun line => String.ofList line.text).getD "")

/-- The table on the screen for one of markup. -/
def ScreenTable.ofMarkup (table : TableMarkup) : Except Failure ScreenTable := do
  let laid ← ScreenColumn.laid table.rows 0 table.columns
  let cells := (List.range table.rows.length).map fun place =>
    laid.map fun (_, cells) => cells.getD place []
  -- The columns are laid out before anything is drawn, and drawing goes from row to row.
  checkLines (cells.flatMap List.flatten)
  return { title := table.title, columns := laid.map Prod.fst, rows := cells.flatMap screenRows }

/-- The items of a printed text on a screen that is as wide as its lines. -/
def textItems (text : String) : List ScreenItem :=
  (screenLines none text).map .line

/-- The console of a terminal. -/
def terminal : Console where
  escape := escapeMarkup
  printText := textItems
  printMarkup markup :=
    (renderMarkup markup).map fun shown => textItems (String.ofList shown.text)
  printTable table := (ScreenTable.ofMarkup table).map fun drawn => [.table drawn]

end TransformPreset
