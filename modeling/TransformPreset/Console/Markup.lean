import TransformPreset.Console.Emoji
import TransformPreset.Console.Literal
import TransformPreset.Console.Styled
import TransformPreset.Text.Word

/-!
# Console markup

What is printed may hold tags in square brackets, which style the text between them and are not
shown. A closing tag closes the innermost open tag of its style. A tag that starts with an at sign
is an action, whose parameters must be a literal once it is closed. Backslashes before a tag escape
it: of each two of them one is shown, and one that is left over makes the tag a plain text. In what
is left, names between colons are emoji codes. `renderMarkup` gives the styled text that is shown,
and `escapeMarkup` a markup for a text in which nothing is a tag.
-/

namespace TransformPreset

/-- The characters that a tag starts with. -/
def isTagStart (c : Char) : Bool :=
  (0x61 ≤ c.toNat && c.toNat ≤ 0x7A) || c == '#' || c == '/' || c == '@'

/-- The text inside the brackets of a tag, from the text after an opening bracket. -/
def tagBody? : List Char → Option (List Char)
  | [] => none
  | first :: rest =>
    let more := rest.takeWhile fun c => c != '[' && c != ']'
    if isTagStart first && (rest.drop more.length).head? == some ']' then some (first :: more)
    else none

/-- The text inside the brackets of a tag, if one opens at the character. -/
def tagAt? (c : Char) (rest : List Char) : Option (List Char) :=
  if c == '[' then tagBody? rest else none

/-- The given number of backslashes. -/
def backslashes (count : Nat) : List Char :=
  List.replicate count '\\'

/-- A part of a text in markup. -/
inductive MarkupPiece
  /-- A text that is shown. -/
  | plain (text : List Char)
  /-- A tag with its place in the text. -/
  | tag (place : Nat) (body : List Char)
deriving DecidableEq

/-- The text of a tag with its brackets. -/
def inBrackets (body : List Char) : List Char :=
  '[' :: body ++ [']']

/-- The text without the backslash before each bracket that has one. -/
def unescapeBrackets : List Char → List Char
  | '\\' :: '[' :: rest => '[' :: unescapeBrackets rest
  | c :: rest => c :: unescapeBrackets rest
  | [] => []

/-- The part of a text without tags, unless it is empty. -/
def plainPieces (text : List Char) : List MarkupPiece :=
  if text.isEmpty then [] else [.plain text]

/-- The parts of a text, given its beginning without tags, last character first. What follows stands
at a place, after a number of backslashes, and some of its characters belong to a tag before. -/
def markupPiecesFrom (place skipped before : Nat) (pending : List Char) :
    List Char → List MarkupPiece
  | [] => plainPieces (unescapeBrackets (pending.reverse ++ backslashes before))
  | c :: rest =>
    if 0 < skipped then markupPiecesFrom (place + 1) (skipped - 1) 0 [] rest
    else if c == '\\' then markupPiecesFrom (place + 1) 0 (before + 1) pending rest
    else
      match tagAt? c rest with
      | none => markupPiecesFrom (place + 1) 0 0 (c :: (backslashes before ++ pending)) rest
      | some body =>
        plainPieces (unescapeBrackets pending.reverse) ++ plainPieces (backslashes (before / 2)) ++
          -- An odd backslash escapes the tag.
          (if before % 2 = 0 then .tag place body else .plain (inBrackets body)) ::
          markupPiecesFrom (place + 1) (body.length + 1) 0 [] rest

/-- The parts of a text. -/
def markupPieces (text : List Char) : List MarkupPiece :=
  markupPiecesFrom 0 0 0 [] text

/-! ## Tags -/

/-- A tag that is open. -/
structure OpenTag where
  /-- The place in the shown text where it opens. -/
  first : Nat
  /-- The key of its style. -/
  key : List Char
  /-- What stands behind its equals sign. -/
  parameters : List Char
deriving DecidableEq

/-- The name of a tag, and its parameters behind an equals sign. -/
def splitTag (body : List Char) : List Char × List Char :=
  let (name, parameters?) := partitionAt '=' body
  (name, parameters?.getD [])

/-- The open tag of an opening one at a place in the shown text. -/
def openTag (first : Nat) (body : List Char) : Except Failure OpenTag := do
  let (name, parameters) := splitTag body
  return ⟨first, ← styleKey name, parameters⟩

/-- Whether a tag is an action. -/
def OpenTag.isAction (tag : OpenTag) : Bool :=
  tag.key.head? == some '@'

/-- The span of a tag up to a place, in the style that its key and its parameters give. -/
def OpenTag.span (last : Nat) (tag : OpenTag) : Span :=
  ⟨tag.first, last, tag.key ++ ' ' :: tag.parameters⟩

/-- The literal in the parameters of an action, which are a name, a literal, or a name with a
literal in parentheses after it. -/
def actionLiteral (parameters : List Char) : List Char :=
  let bare := trim parameters
  let inner := bare.dropWhile fun c => isWord c || c == '.'
  if inner.isEmpty then "()".toList
  else if (between? ['('] [')'] inner).any fun body => !body.contains '\n' then inner
  else bare

/-- Checks a tag that is closed. -/
def checkClosed (tag : OpenTag) : Except Failure Unit :=
  if tag.isAction && !tag.parameters.isEmpty && !isLiteral (actionLiteral tag.parameters) then
    .error (.actionUnreadable (String.ofList tag.parameters))
  else .ok ()

/-- The tag that a closing one closes, and those that stay open, the innermost first. It is the
innermost one of its style, or the innermost one of all if the closing tag has no name. -/
def closeTag (place : Nat) (body : List Char) (opened : List OpenTag) :
    Except Failure (OpenTag × List OpenTag) := do
  let name := trim (splitTag body).1.tail
  if name.isEmpty then
    match opened with
    | [] => .error (.noTagOpen place)
    | tag :: outer => do
      checkClosed tag
      return (tag, outer)
  else
    let key ← styleKey name
    match opened.find? (·.key == key) with
    | none => .error (.tagNotOpen (String.ofList (inBrackets body)) place)
    | some tag => do
      checkClosed tag
      return (tag, opened.eraseP (·.key == key))

/-- The text that parts show behind a text of a length, while some tags are open, the innermost
first, and the spans of the tags in the order in which they are closed. A closed action has no
style. -/
def showPieces (length : Nat) (opened : List OpenTag) :
    List MarkupPiece → Except Failure (List Char × List Span)
  | [] => .ok ([], opened.map (·.span length))
  | .plain text :: rest => do
    let shown := dropControls (replaceCodes text)
    let (more, spans) ← showPieces (length + shown.length) opened rest
    return (shown ++ more, spans)
  | .tag place body :: rest => do
    if body.head? == some '/' then
      let (tag, stillOpen) ← closeTag place body opened
      let (more, spans) ← showPieces length stillOpen rest
      return (more, if tag.isAction then spans else tag.span length :: spans)
    else showPieces length ((← openTag length body) :: opened) rest

/-- The styled text that a markup shows. Styles are read from the first place on, and at one place
from the outermost on. -/
def renderMarkup (markup : String) : Except Failure StyledText := do
  let (text, spans) ← showPieces 0 [] (markupPieces markup.toList)
  return ⟨text, spans.reverse.mergeSort fun a b => decide (a.first ≤ b.first)⟩

/-! ## Escapes -/

/-- A text with the tags in it escaped. Its first character stands after a number of backslashes,
and some of its characters belong to a tag before. -/
def escapeTags (skipped before : Nat) : List Char → List Char
  | [] => backslashes before
  | c :: rest =>
    if 0 < skipped then c :: escapeTags (skipped - 1) 0 rest
    else if c == '\\' then escapeTags 0 (before + 1) rest
    else
      match tagAt? c rest with
      | none => backslashes before ++ c :: escapeTags 0 0 rest
      | some body => backslashes (2 * before + 1) ++ c :: escapeTags (body.length + 1) 0 rest

/-- A markup for a text: its tags are escaped, and a single backslash at its end is doubled. -/
def escapeMarkup (text : String) : String :=
  let escaped := escapeTags 0 0 text.toList
  let atEnd := escaped.reverse.takeWhile (· == '\\')
  -- A lone backslash at the end would escape a tag that is put after it.
  String.ofList (if atEnd.length = 1 then escaped ++ ['\\'] else escaped)

end TransformPreset
