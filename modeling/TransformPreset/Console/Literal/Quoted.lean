import TransformPreset.Text.CharClass
import TransformPreset.Text.CharName

/-!
# Strings in literals

A string stands in quotes, which may be threefold, and letters before them say how it is read.
A backslash starts an escape, which may be the code point or the name of a character; both have to
exist.
-/

namespace TransformPreset

namespace Literal

/-- How a string is written. -/
structure StringForm where
  /-- The quote. -/
  quote : Char
  /-- Whether the quotes are threefold, so that lines may end within the string. -/
  isBlock : Bool
  /-- Whether backslashes stand for themselves. -/
  isRaw : Bool
  /-- Whether it is a string of bytes. -/
  isBytes : Bool

/-- The text after so many hexadecimal digits. -/
def afterHex? (count : Nat) (text : List Char) : Option (List Char) :=
  if (text.take count).length = count then
    (hexValue? (text.take count)).bind fun value =>
      if value ≤ 0x10FFFF then some (text.drop count) else none
  else none

/-- The text after the name of a character in braces. -/
def afterCharName? : List Char → Option (List Char)
  | '\x7b' :: rest =>
    let name := rest.takeWhile (· != '\x7d')
    match rest.drop name.length with
    | [] => none
    | _ :: left => if isCharName name then some left else none
  | _ => none

/-- The text after what a backslash and a letter start. -/
def afterEscape? (form : StringForm) (letter : Char) (rest : List Char) : Option (List Char) :=
  if form.isRaw then some rest
  else if letter == 'x' then afterHex? 2 rest
  else if form.isBytes then some rest
  else if letter == 'u' then afterHex? 4 rest
  else if letter == 'U' then afterHex? 8 rest
  else if letter == 'N' then afterCharName? rest
  else some rest

/-- Whether a character may stand in a string as it is. -/
def isStringChar (form : StringForm) (c : Char) : Bool :=
  (form.isBlock || c != '\n') && (!form.isBytes || isPlain c)

/-- The text after the end of a string, given the text after its opening quotes. -/
def afterString? (form : StringForm) : (fuel : Nat) → List Char → Option (List Char)
  | 0, _ => none
  | fuel + 1, text =>
    match text with
    | [] => none
    | c :: rest =>
      if c == form.quote && !form.isBlock then some rest
      else if c == form.quote && rest.take 2 == [c, c] then some (rest.drop 2)
      else if c == '\\' then
        match rest with
        | [] => none
        | letter :: more =>
          if form.isBytes && !isPlain letter then none
          else (afterEscape? form letter more).bind (afterString? form fuel)
      else if isStringChar form c then afterString? form fuel rest
      else none

/-- The letters that may stand before the quotes of a string, in lower case. -/
def stringLetters : List (List Char) :=
  ["", "b", "u", "r", "br", "rb"].map String.toList

/-- Whether a string with the given letters before its quotes is one of bytes, and the text after
it. -/
def readQuoted? (letters : List Char) : List Char → Option (Bool × List Char)
  | [] => none
  | quote :: rest =>
    if stringLetters.contains letters && (quote == '"' || quote == '\x27') then
      let isBlock := rest.take 2 == [quote, quote]
      let form : StringForm := ⟨quote, isBlock, letters.contains 'r', letters.contains 'b'⟩
      let body := if isBlock then rest.drop 2 else rest
      (afterString? form body.length.succ body).map fun left => (form.isBytes, left)
    else none

/-- Whether a string is one of bytes, and the text after it. -/
def readString? (text : List Char) : Option (Bool × List Char) :=
  let letters := text.takeWhile Char.isAlpha
  readQuoted? (letters.map Char.toLower) (text.drop letters.length)

end Literal

end TransformPreset
