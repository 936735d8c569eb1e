import TransformPreset.Text.CharClass

/-!
# Blank characters

Two classes of blanks are in use. `isBlank` is the class by which names are trimmed and queries are
cut into words. `isNumberBlank` is the class that may surround the text of a number: it leaves out
the four separators `0x1C` to `0x1F`, which are blanks everywhere else.
-/

namespace TransformPreset

/-- The blanks outside the first 128 code points. -/
def wideBlanks : CharClass :=
  [
    (0x85, 0x85), (0xA0, 0xA0), (0x1680, 0x1680), (0x2000, 0x200A), (0x2028, 0x2029),
    (0x202F, 0x202F), (0x205F, 0x205F), (0x3000, 0x3000)
  ]

/-- Blanks: tab to carriage return, the separators `0x1C` to `0x1F`, the space, and the wide
ones. -/
def isBlank (c : Char) : Bool :=
  if isPlain c then (9 ≤ c.toNat && c.toNat ≤ 13) || (0x1C ≤ c.toNat && c.toNat ≤ 0x20)
  else wideBlanks.has c

/-- Blanks around the text of a number: all blanks but the separators `0x1C` to `0x1F`. -/
def isNumberBlank (c : Char) : Bool :=
  if isPlain c then (9 ≤ c.toNat && c.toNat ≤ 13) || c.toNat == 0x20 else wideBlanks.has c

theorem isBlank_of_isNumberBlank {c : Char} (h : isNumberBlank c = true) : isBlank c = true := by
  unfold isNumberBlank at h
  unfold isBlank
  split
  · rename_i hp
    simp only [hp, if_true, Bool.or_eq_true, Bool.and_eq_true, decide_eq_true_eq, beq_iff_eq] at h ⊢
    omega
  · rename_i hp
    simpa [hp] using h

end TransformPreset
