import TransformPreset.Text.Quoted

/-!
# Texts by code points

A text that is written with escapes may hold half of a surrogate pair without the other half, which
no character stands for. Code points with such a half are no text: `textOfPoints?` gives the text of
all others, and `quotedPoints` shows any.
-/

namespace TransformPreset

/-- Whether a code point is half of a surrogate pair. -/
def isHalf (point : Nat) : Bool :=
  0xD800 ≤ point && point ≤ 0xDFFF

/-- The text of code points, unless one of them is half of a pair. -/
def textOfPoints? (points : List Nat) : Option String :=
  if points.any isHalf then none else some (String.ofList (points.map Char.ofNat))

/-- A code point inside the given quotes. -/
def quotePoint (quote : Char) (point : Nat) : List Char :=
  if isHalf point then '\\' :: 'u' :: hexDigits 4 point else quoteChar quote (Char.ofNat point)

/-- The text of code points in quotes. -/
def quotedPoints (points : List Nat) : String :=
  let quote := quoteFor (points.map Char.ofNat)
  String.ofList (quote :: points.flatMap (quotePoint quote) ++ [quote])

end TransformPreset
