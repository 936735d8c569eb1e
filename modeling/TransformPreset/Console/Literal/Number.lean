import TransformPreset.Number.Literal
import TransformPreset.Text.CharClass
import TransformPreset.Text.Hex

/-!
# Numbers in literals

A number is whole, in one of four bases, or has a point or an exponent; a letter at its end makes it
imaginary. Underscores may stand between its digits. A reader answers with the text after what it
has read.
-/

namespace TransformPreset

namespace Literal

/-- Whether a character can go on a name. -/
def isNameChar (c : Char) : Bool :=
  c.isAlphanum || c == '_' || !isPlain c

/-- The digits of a class at the start of a text, and the text after them. An underscore may stand
before a digit. -/
def takeDigits (isIn : Char → Bool) : List Char → List Char × List Char
  | [] => ([], [])
  | c :: rest =>
    if isIn c || (c == '_' && rest.head?.any isIn) then
      let (digits, left) := takeDigits isIn rest
      (c :: digits, left)
    else ([], c :: rest)

/-- The digits of a class at the start of a text, the first of which is no underscore. -/
def takeRun (isIn : Char → Bool) (text : List Char) : List Char × List Char :=
  if text.head?.any isIn then takeDigits isIn text else ([], text)

/-- The digits of the base of a letter. -/
def baseDigit? (letter : Char) : Option (Char → Bool) :=
  match letter.toLower with
  | 'x' => some fun c => (hexDigitValue? c).isSome
  | 'o' => some fun c => '0' ≤ c && c ≤ '7'
  | 'b' => some fun c => c == '0' || c == '1'
  | _ => none

/-- The text after the exponent of a number, if one starts here. -/
def afterExponent? : List Char → Option (List Char)
  | [] => none
  | letter :: rest =>
    let body := if rest.head? == some '+' || rest.head? == some '-' then rest.tail else rest
    let (digits, left) := takeRun Char.isDigit body
    if (letter == 'e' || letter == 'E') && !digits.isEmpty then some left else none

/-- The text after the point of a number and the digits behind it, if there is a point. -/
def afterFraction? : List Char → Option (List Char)
  | '.' :: rest => some (takeRun Char.isDigit rest).2
  | _ => none

/-- Whether a text starts with a point and a digit. -/
def startsWithFraction : List Char → Bool
  | '.' :: c :: _ => c.isDigit
  | _ => false

/-- Whether the whole part of a number can stand alone: it is zero, or it starts with another digit
and has no more digits than an integer may have. -/
def isWholeNumber (digits : List Char) : Bool :=
  let plain := digits.filter (· != '_')
  plain.all (· == '0') || (plain.head? != some '0' && plain.length ≤ maxDigits)

/-- A number in a base other than ten. -/
def afterBased? : List Char → Option (List Char)
  | '0' :: letter :: rest => do
    let isIn ← baseDigit? letter
    let body := if rest.head? == some '_' then rest.tail else rest
    let (digits, left) := takeRun isIn body
    if digits.isEmpty then none else some left
  | _ => none

/-- Whether a decimal number is imaginary, and the text after it. -/
def readDecimal? (text : List Char) : Option (Bool × List Char) :=
  let (whole, afterWhole) := takeRun Char.isDigit text
  let fraction? := afterFraction? afterWhole
  let afterFraction := fraction?.getD afterWhole
  let exponent? := afterExponent? afterFraction
  let left := exponent?.getD afterFraction
  let imaginary := left.head? == some 'j' || left.head? == some 'J'
  if whole.isEmpty && !startsWithFraction afterWhole then none
  else if fraction?.isNone && exponent?.isNone && !imaginary && !isWholeNumber whole then none
  else some (imaginary, if imaginary then left.tail else left)

/-- Whether a number is imaginary, and the text after it, in which no name may follow at once. -/
def readNumber? (text : List Char) : Option (Bool × List Char) := do
  let (imaginary, left) ← ((afterBased? text).map (false, ·)).or (readDecimal? text)
  if left.head?.any isNameChar then none else some (imaginary, left)

end Literal

end TransformPreset
