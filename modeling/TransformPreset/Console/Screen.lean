import TransformPreset.Text.Pieces
import TransformPreset.Text.Width

/-!
# Lines on the screen

A printed text becomes its lines, without the control characters that a screen would act on and with
tabs filled up to the next eighth column. What is on the screen is read with more ends of lines than
the one that it is printed with.
-/

namespace TransformPreset

/-! ## Controls and tabs -/

/-- The control characters that are not shown. -/
def isControl (c : Char) : Bool :=
  [7, 8, 11, 12, 13].contains c.toNat

/-- The text without the controls that are not shown. -/
def dropControls (text : List Char) : List Char :=
  text.filter fun c => !isControl c

/-- The columns from one tab stop to the next. -/
def tabWidth : Nat := 8

/-- A line from a column on, with its tabs as spaces. -/
def expandTabs (column : Nat) : List Char → List Char
  | [] => []
  | c :: rest =>
    if c == '\t' then
      let width := tabWidth - column % tabWidth
      List.replicate width ' ' ++ expandTabs (column + width) rest
    else c :: expandTabs (column + charWidth c) rest

/-! ## Blanks at the end -/

/-- The text without blanks at its end. -/
def trimEnd (text : List Char) : List Char :=
  (text.reverse.dropWhile isBlank).reverse

/-- A line without the blanks at its end, as far as the line has more characters than the room. -/
def dropExcess (room : Nat) (line : List Char) : List Char :=
  let excess := line.length - room
  let blanks := (line.reverse.takeWhile isBlank).length
  line.take (line.length - min blanks excess)

/-! ## Lines -/

/-- The lines of a printed text, on a screen that may have a width. Lines that do not fit stay
whole, but blanks at their ends do not. -/
def screenLines (width? : Option Nat) (text : String) : List String :=
  (pieces '\n' (dropControls text.toList)).map fun line =>
    let shown := expandTabs 0 line
    String.ofList ((width?.map fun width => dropExcess width shown).getD shown)

/-- The characters that end a line when a text is read. -/
def isLineEnd (c : Char) : Bool :=
  (10 ≤ c.toNat && c.toNat ≤ 13) || (0x1C ≤ c.toNat && c.toNat ≤ 0x1E) ||
    ['\u0085', '\u2028', '\u2029'].contains c

/-- The lines of a text when it is read. An end of a line at the end of the text starts none. -/
def brokenLines : List Char → List (List Char)
  | [] => []
  | c :: rest =>
    if isLineEnd c then [] :: brokenLines rest
    else
      match brokenLines rest with
      | [] => [[c]]
      | line :: more => (c :: line) :: more

/-- The width of the widest line of a text when it is read. -/
def widestLine (text : List Char) : Nat :=
  (brokenLines text).foldl (fun widest line => max widest (textWidth line)) 0

end TransformPreset
