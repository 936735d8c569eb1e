import TransformPreset.Number.Literal

/-!
# The number at the start of a text

`leadingFloat` is the longest start of a text that has the form of a plain decimal: blanks, an
optional sign, and digits with an optional fraction, which may be the point alone, or a point and
digits. `leadingInt` is a sign and digits after any blanks.
-/

namespace TransformPreset

/-- A sign in front of a text, kept as it is, and the text after it. -/
def splitSign : List Char → List Char × List Char
  | '-' :: rest => (['-'], rest)
  | '+' :: rest => (['+'], rest)
  | text => ([], text)

/-- The longest decimal without sign and exponent at the start of a text. -/
def leadingDecimal? (text : List Char) : Option (List Char) :=
  let whole := text.takeWhile isDigit
  match text.dropWhile isDigit with
  | '.' :: rest =>
    let fraction := rest.takeWhile isDigit
    if whole.isEmpty && fraction.isEmpty then none else some (whole ++ '.' :: fraction)
  | _ => if whole.isEmpty then none else some whole

/-- The longest start of a text that has the form of a number, with the blanks before it. -/
def leadingFloat? (text : List Char) : Option (List Char) :=
  let blanks := text.takeWhile isBlank
  let (sign, body) := splitSign (text.dropWhile isBlank)
  (leadingDecimal? body).map fun decimal => blanks ++ sign ++ decimal

/-- The longest sign and digits at the start of a text, without the blanks before them. -/
def leadingInt? (text : List Char) : Option (List Char) :=
  let (sign, body) := splitSign (text.dropWhile isBlank)
  let digits := body.takeWhile isDigit
  if digits.isEmpty then none else some (sign ++ digits)

end TransformPreset
