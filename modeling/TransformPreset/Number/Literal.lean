import TransformPreset.Number.Binary64
import TransformPreset.Text.Blank
import TransformPreset.Text.Digit
import TransformPreset.Text.Pieces

/-!
# Texts of numbers

`readFloat?` reads the text of a binary64 number: blanks around it, a sign, then either a decimal
with an optional exponent or the name of an infinity or of not-a-number. Digits of every script
count, and an underscore may stand between two digits. `readInt` reads a sign and digits; it refuses
more than 4300 of them.
-/

namespace TransformPreset

/-- The plain form of a character in the text of a number: a digit of any script becomes the plain
digit, a wide blank the space. -/
def plainForm (c : Char) : Char :=
  if isPlain c then c
  else
    match digitValue? c with
    | some d => Char.ofNat (0x30 + d)
    | none => if isNumberBlank c then ' ' else c

/-- The text without its underscores, if each of them stands between two digits. The flag says
whether a digit comes just before. -/
def withoutUnderscores? (afterDigit : Bool) : List Char → Option (List Char)
  | [] => some []
  | c :: rest =>
    if c == '_' then
      match rest with
      | [] => none
      | d :: _ => if afterDigit && isDigit d then withoutUnderscores? false rest else none
    else (withoutUnderscores? (isDigit c) rest).map (c :: ·)

/-- A sign in front of a text: whether it is a minus, and the text after it. -/
def takeSign : List Char → Bool × List Char
  | '-' :: rest => (true, rest)
  | '+' :: rest => (false, rest)
  | text => (false, text)

/-- The exponent part of a decimal; the empty text is the exponent zero. -/
def readExponent? : List Char → Option Int
  | [] => some 0
  | c :: rest =>
    if c == 'e' || c == 'E' then
      let (negative, digits) := takeSign rest
      if digits.isEmpty || !digits.all isDigit then none
      else some (if negative then -(digitsValue digits : Int) else digitsValue digits)
    else none

/-- A decimal: digits with an optional point among or around them, then an optional exponent. -/
def readDecimal? (negative : Bool) (text : List Char) : Option Binary64 :=
  let whole := text.takeWhile isDigit
  let afterWhole := text.dropWhile isDigit
  let (fraction, rest) :=
    match afterWhole with
    | '.' :: afterPoint => (afterPoint.takeWhile isDigit, afterPoint.dropWhile isDigit)
    | _ => ([], afterWhole)
  if whole.isEmpty && fraction.isEmpty then none
  else (readExponent? rest).map fun exponent =>
    Binary64.ofDecimal negative (digitsValue (whole ++ fraction)) (exponent - fraction.length)

/-- A number that has a name, given in lower case. -/
def namedNumber? (negative : Bool) (name : List Char) : Option Binary64 :=
  if name == "inf".toList || name == "infinity".toList then some (.infinite negative)
  else if name == "nan".toList then some .nan
  else none

/-- The binary64 number that a text writes. -/
def readFloat? (text : List Char) : Option Binary64 :=
  -- Digits and blanks of every script are made plain first, so that one grammar is left.
  (withoutUnderscores? false (trimBy isNumberBlank (text.map plainForm))).bind fun plain =>
    let (negative, body) := takeSign plain
    (namedNumber? negative (body.map Char.toLower)).or (readDecimal? negative body)

/-- The most digits that the text of an integer may have. -/
def maxDigits : Nat := 4300

/-- The integer that a sign and digits write, or the count of digits if there are too many. -/
def readInt (text : List Char) : Except Nat Int :=
  let (negative, digits) := takeSign text
  -- The sign does not count as a digit.
  if maxDigits < digits.length then .error digits.length
  else .ok (if negative then -(digitsValue digits : Int) else digitsValue digits)

end TransformPreset
