import TransformPreset.Failure

/-!
# Consoles

What a command shows is printed on a console, as plain text, as text with markup, or as a table
whose cells are markup. A console may lay out, style and refuse markup as it likes: it is part of
the outside world.
-/

namespace TransformPreset

/-- A column of a table. -/
structure ScreenColumn where
  /-- Its name. -/
  name : String
  /-- Whether its cells end at its right edge. -/
  atRight : Bool := false
deriving DecidableEq

/-- A table that is to be printed. -/
structure TableMarkup where
  /-- Its title. -/
  title : String
  /-- Its columns. -/
  columns : List ScreenColumn
  /-- Its rows of cells, each of which is markup. -/
  rows : List (List String)
deriving DecidableEq

/-- A table on the screen. -/
structure ScreenTable where
  /-- Its title. -/
  title : String
  /-- Its columns, each with its width. -/
  columns : List (ScreenColumn × Nat)
  /-- Its rows on the screen. -/
  rows : List (List String)
deriving DecidableEq

/-- A thing on the screen. -/
inductive ScreenItem
  /-- A line. -/
  | line (text : String)
  /-- A table. -/
  | table (table : ScreenTable)
deriving DecidableEq

/-- A console: what it puts on the screen for what is printed on it. -/
structure Console where
  /-- A markup for a text in which nothing is meant as markup. -/
  escape : String → String
  /-- What is on the screen for a plain text. -/
  printText : String → List ScreenItem
  /-- What is on the screen for a text with markup. -/
  printMarkup : String → Except Failure (List ScreenItem)
  /-- What is on the screen for a table. -/
  printTable : TableMarkup → Except Failure (List ScreenItem)

end TransformPreset
