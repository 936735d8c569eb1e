import TransformPreset.Text.Digit
import TransformPreset.Text.Pieces

/-!
# Longest starts

A reader that takes as much of a text as has a form finds the longest start of that form
(`LongestStart`); a text has at most one (`LongestStart.unique`). Where the form is made of runs of
classes, one after another, the text decides each run: it is divided in one way into characters of a
class and a rest that starts with none (`run_unique`), and no start of the class is longer than the
run (`length_le_run`).
-/

namespace TransformPreset

/-- The longest start of a text that has a form. -/
structure LongestStart (form : List Char → Prop) (text start : List Char) : Prop where
  /-- It has the form. -/
  hasForm : form start
  /-- The text starts with it. -/
  starts : start <+: text
  /-- No longer start has the form. -/
  longest : ∀ other, form other → other <+: text → other.length ≤ start.length

/-- A text has at most one longest start of a form. -/
theorem LongestStart.unique {form : List Char → Prop} {text start other : List Char}
    (h : LongestStart form text start) (hother : LongestStart form text other) : other = start := by
  have hle := h.longest other hother.hasForm hother.starts
  have hge := hother.longest start h.hasForm h.starts
  exact (List.prefix_of_prefix_length_le hother.starts h.starts hle).eq_of_length
    (Nat.le_antisymm hle hge)

variable {p : Char → Bool} {run rest other more : List Char}

/-- A text is divided in one way into characters of a class and a rest that starts with none. -/
theorem run_unique (hrun : ∀ c ∈ run, p c = true) (hrest : ∀ c ∈ rest.head?, p c = false)
    (hother : ∀ c ∈ other, p c = true) (hmore : ∀ c ∈ more.head?, p c = false)
    (h : run ++ rest = other ++ more) : run = other ∧ rest = more := by
  constructor
  · rw [← takeWhile_append_of_head? hrun hrest, h, takeWhile_append_of_head? hother hmore]
  · rw [← dropWhile_append_of_head? hrun hrest, h, dropWhile_append_of_head? hother hmore]

/-- Characters of a class at the start of a text are no more than the run that it starts with. -/
theorem length_le_run (hrun : ∀ c ∈ run, p c = true) (hrest : ∀ c ∈ rest.head?, p c = false)
    (hother : ∀ c ∈ other, p c = true) (h : other ++ more = run ++ rest) :
    other.length ≤ run.length := by
  have hwhole : other ++ more.takeWhile p = run := by
    rw [← List.takeWhile_append_of_pos hother, h, takeWhile_append_of_head? hrun hrest]
  rw [← hwhole, List.length_append]
  exact Nat.le_add_right _ _

/-- A point is no digit, so that the digits before one are a whole run. -/
theorem isDigit_head?_point (rest : List Char) :
    ∀ c ∈ ('.' :: rest).head?, isDigit c = false := by
  rintro c ⟨⟩
  decide

end TransformPreset
