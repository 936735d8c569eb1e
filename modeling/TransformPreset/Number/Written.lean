import TransformPreset.Number.Digits
import TransformPreset.Number.Order

/-!
# Numbers in writing

A layout says when a decimal is written with its point in place and when with an exponent.
`Layout.full` is the form of a number in messages and reports, with the fewest digits that read
back; `Layout.general` is the form in tables, with six significant digits and no zeros at the end.
-/

namespace TransformPreset

/-- How a decimal is laid out. -/
structure Layout where
  /-- The least power of ten of the first digit that is written without an exponent. -/
  lowest : Int
  /-- The least power of ten above that which is written with an exponent again. -/
  highest : Int
  /-- Whether a whole number ends in a point and a zero. -/
  marksWhole : Bool

namespace Layout

/-- Full precision: positional from `1e-4` to below `1e16`, and `.0` after a whole number. -/
def full : Layout := ⟨-4, 16, true⟩

/-- The form in tables: positional from `1e-4` to below `1e6`, and whole numbers bare. -/
def general : Layout := ⟨-4, 6, false⟩

/-- An exponent: its sign and at least two digits. -/
def exponentText (exponent : Int) : List Char :=
  let digits := natDigits exponent.natAbs
  let sign := if exponent < 0 then '-' else '+'
  'e' :: sign :: (if digits.length < 2 then '0' :: digits else digits)

/-- A digit before the point and the others after it, if there are others. -/
def pointAfterFirst : List Char → List Char
  | [] => []
  | [d] => [d]
  | d :: more => d :: '.' :: more

/-- Digits with the point in place. -/
def positional (layout : Layout) (digits : List Char) (exponent : Int) : List Char :=
  if exponent < 0 then
    '0' :: '.' :: List.replicate ((-exponent).toNat - 1) '0' ++ digits
  else
    let wholeCount := exponent.toNat + 1
    let whole := digits.take wholeCount ++ List.replicate (wholeCount - digits.length) '0'
    let fraction := digits.drop wholeCount
    if fraction.isEmpty then whole ++ (if layout.marksWhole then ['.', '0'] else [])
    else whole ++ '.' :: fraction

/-- A decimal without zeros at the end of its digits. -/
def text (layout : Layout) (decimal : Decimal) : List Char :=
  -- Zeros at the end say nothing once the exponent is known.
  let digits := ((natDigits decimal.digits).reverse.dropWhile (· == '0')).reverse
  if layout.lowest ≤ decimal.exponent ∧ decimal.exponent < layout.highest then
    layout.positional digits decimal.exponent
  else pointAfterFirst digits ++ exponentText decimal.exponent

/-- The text of zero. -/
def zeroText (layout : Layout) : List Char :=
  if layout.marksWhole then ['0', '.', '0'] else ['0']

end Layout

/-- A minus in front of a text. -/
def signed (negative : Bool) (text : List Char) : String :=
  String.ofList (if negative then '-' :: text else text)

/-- The number in full precision. -/
def Binary64.written : Binary64 → String
  | .nan => "nan"
  | .infinite negative => signed negative "inf".toList
  | .finite negative units _ =>
    signed negative (if units = 0 then Layout.full.zeroText
      else Layout.full.text (Decimal.shortest units))

/-- The number with six significant digits. -/
def Binary64.writtenGeneral : Binary64 → String
  | .nan => "nan"
  | .infinite negative => signed negative "inf".toList
  | .finite negative units _ =>
    signed negative (if units = 0 then Layout.general.zeroText
      else Layout.general.text (Decimal.rounded units Binary64.unitsPerOne 6))

/-- The integer in decimal. -/
def writtenInt (n : Int) : String :=
  signed (n < 0) (natDigits n.natAbs)

end TransformPreset
