import TransformPreset.Console.Literal.Number
import TransformPreset.Console.Literal.Quoted

/-!
# Tokens of literals

The words of which literals are made: numbers, strings, a few names, and signs of one character.
Blanks and comments stand between tokens. A line may only end within brackets, or where the literal
has not begun or is over; and the line on which it begins is not indented.
-/

namespace TransformPreset

namespace Literal

/-- A token. -/
inductive Token
  /-- A number, which may be imaginary. -/
  | number (imaginary : Bool)
  /-- A string, which may be one of bytes. -/
  | string (bytes : Bool)
  /-- A value that has a name. -/
  | constant
  /-- The name of the function that makes sets. -/
  | setName
  /-- A bracket, a comma, a colon, a plus or a minus. -/
  | sign (c : Char)
deriving DecidableEq

/-! ## Names and signs -/

/-- The forms of the letters of the name of the function that makes sets. -/
def setNameForms : List (List Char) :=
  ["sſˢₛｓ𝐬𝑠𝒔𝓈𝓼𝔰𝕤𝖘𝗌𝘀𝘴𝙨𝚜", "eᵉₑℯⅇｅ𝐞𝑒𝒆𝓮𝔢𝕖𝖊𝖾𝗲𝘦𝙚𝚎", "tᵗₜｔ𝐭𝑡𝒕𝓉𝓽𝔱𝕥𝖙𝗍𝘁𝘵𝙩𝚝"].map
    String.toList

/-- Whether a name is that of the function that makes sets, whatever the forms of its letters. -/
def isSetName (name : List Char) : Bool :=
  name.length == setNameForms.length &&
    (setNameForms.zip name).all fun (forms, c) => forms.contains c

/-- A name that may be part of a literal. -/
def readName? (text : List Char) : Option (Token × List Char) :=
  let name := text.takeWhile isNameChar
  let left := text.drop name.length
  if ["None", "True", "False"].contains (String.ofList name) then some (.constant, left)
  else if isSetName name then some (.setName, left)
  else none

/-- Three points, or a sign of one character. -/
def readSign? : List Char → Option (Token × List Char)
  | '.' :: '.' :: '.' :: rest => some (.constant, rest)
  | c :: rest => if "()\x7b\x7d,:+-".toList.contains c then some (.sign c, rest) else none
  | [] => none

/-- The token at the start of a text, and the text after it. -/
def readToken? (text : List Char) : Option (Token × List Char) :=
  let string? := (readString? text).map fun (bytes, left) => (Token.string bytes, left)
  let number? := (readNumber? text).map fun (imaginary, left) => (Token.number imaginary, left)
  string?.or ((readName? text).or (number?.or (readSign? text)))

/-! ## Lines -/

/-- The text with every end of a line written as a single character. -/
def joinLineEnds : List Char → List Char
  | '\r' :: '\n' :: rest => '\n' :: joinLineEnds rest
  | c :: rest => (if c == '\r' then '\n' else c) :: joinLineEnds rest
  | [] => []

/-- A form feed, which takes the margin of a line back. -/
def formFeed : Char := Char.ofNat 12

/-- The blanks between tokens. -/
def isGap (c : Char) : Bool :=
  c == ' ' || c == '\t' || c == formFeed

/-- The text after the margin of a line, if the line is empty, a comment, or not indented. A margin
goes on after a backslash at the end of a line, but what is indented before one stays so. -/
def afterMargin? (indented stays : Bool) : List Char → Option (List Char)
  | [] => if indented || stays then none else some []
  | '\\' :: '\n' :: rest =>
    if rest.isEmpty then none else afterMargin? indented (stays || indented) rest
  | c :: rest =>
    if c == formFeed then afterMargin? false stays rest
    else if isGap c then afterMargin? true stays rest
    else if c == '\n' || c == '#' || !(indented || stays) then some (c :: rest)
    else none

/-! ## Texts -/

/-- The most brackets that may be open. -/
def maxOpen : Nat := 200

/-- The brackets that are open after a token, of so many before it. -/
def openAfter? (opened : Nat) : Token → Option Nat
  | .sign c =>
    if c == '(' || c == '\x7b' then if opened < maxOpen then some (opened + 1) else none
    else if c == ')' || c == '\x7d' then some (opened - 1)
    else some opened
  | _ => some opened

/-- The tokens of a text, while so many brackets are open. -/
def readTokens? : (fuel opened : Nat) → (begun : Bool) → List Char → Option (List Token)
  | 0, _, _, _ => none
  | fuel + 1, opened, begun, text =>
    match text with
    | [] => some []
    | '\\' :: '\n' :: rest => if rest.isEmpty then none else readTokens? fuel opened begun rest
    | '\n' :: rest =>
      if 0 < opened then readTokens? fuel opened begun rest
      else do
        let more ← readTokens? fuel opened begun (← afterMargin? false false rest)
        -- Where no bracket is open, the end of a line ends the literal.
        if begun && !more.isEmpty then none else some more
    | '#' :: rest => readTokens? fuel opened begun (rest.dropWhile (· != '\n'))
    | c :: rest =>
      if isGap c then readTokens? fuel opened begun rest
      else do
        let (token, left) ← readToken? text
        let next ← openAfter? opened token
        let more ← readTokens? fuel next true left
        some (token :: more)

/-- The tokens of a text. The blanks that it starts with are no margin. -/
def tokens? (text : List Char) : Option (List Token) := do
  let lines := (joinLineEnds text).dropWhile fun c => c == ' ' || c == '\t'
  if lines.contains '\x00' then none
  else readTokens? lines.length.succ 0 false (← afterMargin? false false lines)

end Literal

end TransformPreset
