import TransformPreset.Number.Binary64

/-!
# Decimal digits of a binary64 number

A positive number is shown by some of its significant decimal digits and the power of ten of the
first one (`Decimal`). `Decimal.rounded` takes a given count of digits, nearest to the number, a tie
to the even last digit. `Decimal.shortest` takes the fewest digits that read back: for each count of
digits it tries the two decimals of that count around the number, and of two that read back it takes
the nearer one.
-/

namespace TransformPreset

/-- The decimal digits of a natural number, most significant first. -/
def natDigits (n : Nat) : List Char :=
  Nat.toDigits 10 n

/-- A positive decimal: significant digits and the power of ten that the first of them counts. -/
structure Decimal where
  /-- The digits, as a whole number. -/
  digits : Nat
  /-- The power of ten of the first digit. -/
  exponent : Int
deriving DecidableEq

namespace Decimal

/-- The power of ten of the first digit of `num / den`, both positive. -/
def leadingExponent (num den : Nat) : Int :=
  if den ≤ num then (natDigits (num / den)).length - 1
  else -(natDigits ((den + num - 1) / num - 1)).length

/-- The quotient `num / den` over the power of ten of the last of `count` digits, as a fraction. -/
def scaled (num den count : Nat) : Nat × Nat :=
  let lastExponent := leadingExponent num den - (count - 1)
  if 0 ≤ lastExponent then (num, den * Nat.pow 10 lastExponent.toNat)
  else (num * Nat.pow 10 (-lastExponent).toNat, den)

/-- The decimal of `digits` in which `count` digits end at the last place of `num / den`; one more
digit, which a carry gives, moves the first digit up. -/
def ofDigits (num den count digits : Nat) : Decimal :=
  if digits = Nat.pow 10 count then ⟨digits / 10, leadingExponent num den + 1⟩
  else ⟨digits, leadingExponent num den⟩

/-- The decimal of `count` digits nearest to `num / den`; a tie goes to the even last digit. -/
def rounded (num den count : Nat) : Decimal :=
  let (n, d) := scaled num den count
  ofDigits num den count (Binary64.roundDiv n d)

/-- The number that a decimal of `count` digits reads as. -/
def value (count : Nat) (decimal : Decimal) : Binary64 :=
  Binary64.ofDecimal false decimal.digits (decimal.exponent - (count - 1))

/-- Whether the decimal of `count` digits reads as the given units. -/
def readsBack (units count : Nat) (decimal : Decimal) : Bool :=
  match value count decimal with
  | .finite _ read _ => read == units
  | _ => false

/-- The decimal of `count` digits that reads back as the given units: the nearest one, or if that
does not read back the one on either side. -/
def readingBack? (units count : Nat) : Option Decimal :=
  let (n, d) := scaled units Binary64.unitsPerOne count
  -- The nearest decimal comes first, then its neighbours.
  let candidates := [Binary64.roundDiv n d, n / d, n / d + 1]
  (candidates.map (ofDigits units Binary64.unitsPerOne count)).find? (readsBack units count)

/-- The least decimal that reads back, among those of `count` digits and more, for as many counts
as `more` says. -/
def shortestFrom (units : Nat) : (more : Nat) → (count : Nat) → Decimal
  | 0, count => rounded units Binary64.unitsPerOne count
  | more + 1, count => (readingBack? units count).getD (shortestFrom units more (count + 1))

/-- The decimal with the fewest digits that reads back as the given units. Seventeen digits always
do. -/
def shortest (units : Nat) : Decimal :=
  shortestFrom units 16 1

end Decimal

end TransformPreset
