import TransformPreset.Console.Styled

/-!
# Cells of a table

A cell is written into the room of its column. Its lines are wrapped between words, and a line that
is still too wide ends in an ellipsis.
-/

namespace TransformPreset

/-! ## Wrapping -/

/-- Cuts a line behind the blanks after each word. -/
def wordRuns : List Char → List (List Char)
  | [] => []
  | c :: rest =>
    match wordRuns rest with
    | [] => [[c]]
    | run :: more =>
      if isBlank c && !run.head?.any isBlank then [c] :: run :: more else (c :: run) :: more

/-- The words of a line with the blanks after them, the first one also with those before it. -/
def spacedWords (line : List Char) : List (List Char) :=
  match wordRuns line with
  | blanks :: word :: more =>
    if blanks.all isBlank then (blanks ++ word) :: more else blanks :: word :: more
  | runs => runs

/-- Puts words behind an unfinished line. A word that does not fit, its blanks apart, starts a new
line, unless it would be the first one of the line. -/
def wrapWords (room : Nat) (line : List Char) : List (List Char) → List (List Char)
  | [] => [line]
  | word :: rest =>
    if line.isEmpty || textWidth line + textWidth (trimEnd word) ≤ room then
      wrapWords room (line ++ word) rest
    else line :: wrapWords room word rest

/-! ## Cutting -/

/-- A beginning of a text with a number of columns, looked for in some steps by halving the way
between two places. Where it would end within a character, a space stands for that half. -/
def cropBetween (columns : Nat) (text : List Char) : Nat → Nat → Nat → List Char
  | 0, _, _ => []
  | steps + 1, first, last =>
    let place := (first + last) / 2
    let beginning := text.take (place + 1)
    let width := textWidth beginning
    let isWide := (beginning.getLast?.map charWidth) == some 2
    if width == columns + 1 && isWide then beginning.dropLast ++ [' ']
    else if width == columns then beginning
    else if columns < width then cropBetween columns text steps first place
    else cropBetween columns text steps place last

/-- A text that has more columns than some number, cut to that number of columns. -/
def crop (columns : Nat) (text : List Char) : List Char :=
  if columns = 0 then [] else cropBetween columns text (text.length + 1) 0 text.length

/-- A line in a room: one that is too wide is cut and ends in an ellipsis. -/
def fitLine (room : Nat) (line : List Char) : List Char :=
  if room < textWidth line then crop (room - 1) line ++ ['…'] else line

/-! ## Lines -/

/-- The places at which a line is wrapped. -/
def wrapPlaces (room : Nat) (line : List Char) : List Nat :=
  placesAfter 0 (wrapWords room [] (spacedWords line)).dropLast
where
  /-- The places behind each of some parts, the first of which stands at a place. -/
  placesAfter (place : Nat) : List (List Char) → List Nat
    | [] => []
    | part :: rest => (place + part.length) :: placesAfter (place + part.length) rest

/-- A wrapped line in a room. In a cell at the right edge blanks at the end do not count. -/
def StyledText.fit (room : Nat) (atRight : Bool) (line : StyledText) : StyledText :=
  let kept := line.withText (dropExcess room line.text)
  let bare := if atRight then kept.withText (trimEnd kept.text) else kept
  bare.withText (fitLine room bare.text)

/-- The lines of a cell in a room. -/
def cellLines (room : Nat) (atRight : Bool) (cell : StyledText) : List StyledText :=
  cell.lines.flatMap fun line =>
    let shown := line.expandTabs
    (shown.cutAt (wrapPlaces room shown.text)).map (·.fit room atRight)

end TransformPreset
