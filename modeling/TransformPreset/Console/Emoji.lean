import TransformPreset.Console.Emoji.Face
import TransformPreset.Console.Emoji.Figure
import TransformPreset.Console.Emoji.Flag
import TransformPreset.Console.Emoji.Scene
import TransformPreset.Console.Emoji.Sign
import TransformPreset.Text.LowerCase
import TransformPreset.Text.Pieces

/-!
# Emoji codes

In a printed text the name of an emoji between colons is a code, and shown as the emoji. A name may
end in a skin tone, and a code in the wish for the coloured or the plain form. What stands between
two colons and is no name stays as it is, colons included, and the next code starts after it.
-/

namespace TransformPreset

/-- The skin tones and their characters. -/
def skinTones : List (String × Char) :=
  [("light", '🏻'), ("medium-light", '🏼'), ("medium", '🏽'), ("medium-dark", '🏾'), ("dark", '🏿')]

/-- The character that asks for the coloured form of the one before it. -/
def colouredForm : Char := '\ufe0f'

/-- The character that asks for the plain form of the one before it. -/
def plainTextForm : Char := '\ufe0e'

/-- The text before an ending, if the text has that ending. -/
def beforeEnd? (ending text : List Char) : Option (List Char) :=
  if ending.isSuffixOf text then some (text.take (text.length - ending.length)) else none

/-- The emoji of a name without a skin tone. -/
def plainEmoji? (name : String) : Option String :=
  ((signEmoji ++ sceneEmoji ++ faceEmoji ++ figureEmoji).lookup name).or (flagOfName? name)

/-- An emoji in a skin tone, which goes to its first character in place of a wish for its form. -/
def withTone (tone : Char) (emoji : String) : String :=
  match emoji.toList with
  | [] => emoji
  | first :: rest =>
    String.ofList (first :: tone :: if rest.head? == some colouredForm then rest.tail else rest)

/-- The emoji of a name that ends in the given skin tone. -/
def tonedEmoji? (name : String) (tone : String × Char) : Option String := do
  let base ← beforeEnd? ("_" ++ tone.1 ++ "_skin_tone").toList name.toList
  let emoji ← plainEmoji? (String.ofList base)
  if tonedNames.contains (String.ofList base) then some (withTone tone.2 emoji) else none

/-- The emoji of a name. -/
def emojiOfName? (name : String) : Option String :=
  (plainEmoji? name).or (skinTones.findSome? (tonedEmoji? name))

/-- The emoji of what stands between two colons. -/
def emojiOfCode? (code : List Char) : Option String :=
  let emoji? (name : List Char) : Option String := emojiOfName? (String.ofList (lowerCase name))
  match beforeEnd? "-emoji".toList code, beforeEnd? "-text".toList code with
  | some name, _ => (emoji? name).map fun emoji => emoji.push colouredForm
  | none, some name => (emoji? name).map fun emoji => emoji.push plainTextForm
  | none, none => emoji? code

/-- What stands between two colons, without a blank in it, if the first of them is at the
character. -/
def codeAt? (c : Char) (rest : List Char) : Option (List Char) :=
  let code := rest.takeWhile fun d => d != ':' && !isBlank d
  if c == ':' && (rest.drop code.length).head? == some ':' then some code else none

/-- A text with its codes replaced, of which so many characters belong to a code before. -/
def replaceFrom (skipped : Nat) : List Char → List Char
  | [] => []
  | c :: rest =>
    if 0 < skipped then replaceFrom (skipped - 1) rest
    else
      match codeAt? c rest with
      | none => c :: replaceFrom 0 rest
      | some code =>
        (match emojiOfCode? code with
          | some emoji => emoji.toList
          | none => ':' :: code ++ [':']) ++ replaceFrom (code.length + 1) rest

/-- A text with its codes replaced. -/
def replaceCodes (text : List Char) : List Char :=
  replaceFrom 0 text

end TransformPreset
