/-!
# Classes of characters

A class of characters is a list of ranges of code points, and membership is a search of that list.
The tables of `Text` are such lists. Each of them leaves the first 128 code points to a rule that
its predicate states directly, so that a text of plain letters never reaches a table.
-/

namespace TransformPreset

/-- A class of characters, as ranges of code points: the first and the last of each. -/
abbrev CharClass := List (Nat × Nat)

namespace CharClass

/-- Whether one of the ranges holds the character. -/
def has (ranges : CharClass) (c : Char) : Bool :=
  ranges.any fun range => range.1 ≤ c.toNat && c.toNat ≤ range.2

theorem has_iff {ranges : CharClass} {c : Char} :
    ranges.has c = true ↔ ∃ range ∈ ranges, range.1 ≤ c.toNat ∧ c.toNat ≤ range.2 := by
  simp [has]

end CharClass

/-- Whether the character is one of the first 128 code points. -/
def isPlain (c : Char) : Bool :=
  c.toNat < 0x80

end TransformPreset
