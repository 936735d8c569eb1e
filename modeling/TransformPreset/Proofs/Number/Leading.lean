import TransformPreset.Proofs.Target.Release

/-!
# The integer at the start of a text

A text starts with an integer if blanks, at most one sign and digits stand at its start
(`StartsWithInt`); the digits are all that follow each other there. Such a text has one integer at
its start, unless the digits are too many, and any other text has none (`leadingInt_cases`).
-/

namespace TransformPreset

/-- The texts of signs, and whether they stand for a minus. -/
inductive IsSign : List Char → Bool → Prop
  /-- No sign. -/
  | none : IsSign [] false
  /-- A plus. -/
  | plus : IsSign ['+'] false
  /-- A minus. -/
  | minus : IsSign ['-'] true

/-- Whether a text starts with an integer of a sign and digits: blanks come before them, and no
further digit comes after them. -/
inductive StartsWithInt : List Char → Bool → List Char → Prop
  /-- The text in its parts. -/
  | intro {blanks sign digits rest : List Char} {negative : Bool}
    (hblanks : ∀ c ∈ blanks, isBlank c = true) (hsign : IsSign sign negative)
    (hne : digits ≠ []) (hdigits : ∀ c ∈ digits, isDigit c = true)
    (hrest : ∀ c ∈ rest.head?, isDigit c = false) :
    StartsWithInt (blanks ++ (sign ++ (digits ++ rest))) negative digits

/-- The integer of a sign and digits. -/
def signedInt (negative : Bool) (digits : List Char) : Int :=
  if negative then -(digitsValue digits : Int) else digitsValue digits

/-! ## Signs -/

namespace IsSign

variable {sign : List Char} {negative : Bool}

/-- A sign is split off in front of what starts with none. -/
theorem splitSign_append (h : IsSign sign negative) {body : List Char}
    (hbody : ∀ c ∈ body.head?, c ≠ '-' ∧ c ≠ '+') : splitSign (sign ++ body) = (sign, body) := by
  cases h with
  | none => exact splitSign_of_head? hbody
  | plus => rfl
  | minus => rfl

/-- A sign is taken from what starts with none, and it is a minus or not. -/
theorem takeSign_append (h : IsSign sign negative) {body : List Char}
    (hbody : ∀ c ∈ body.head?, c ≠ '-' ∧ c ≠ '+') : takeSign (sign ++ body) = (negative, body) := by
  cases h with
  | none => exact takeSign_of_head? hbody
  | plus => rfl
  | minus => rfl

/-- A sign is no blank. -/
theorem isBlank_head? (h : IsSign sign negative) {body : List Char}
    (hbody : ∀ c ∈ body.head?, isBlank c = false) :
    ∀ c ∈ (sign ++ body).head?, isBlank c = false := by
  cases h with
  | none => exact hbody
  | plus =>
    rintro c ⟨⟩
    decide
  | minus =>
    rintro c ⟨⟩
    decide

end IsSign

/-- What is split off from a text is a sign. -/
theorem splitSign_cases (text : List Char) :
    ∃ sign negative body, IsSign sign negative ∧ splitSign text = (sign, body) ∧
      text = sign ++ body := by
  unfold splitSign
  split
  · exact ⟨['-'], true, _, .minus, rfl, rfl⟩
  · exact ⟨['+'], false, _, .plus, rfl, rfl⟩
  · exact ⟨[], false, _, .none, rfl, rfl⟩

/-! ## The integer -/

namespace StartsWithInt

variable {text digits : List Char} {negative : Bool}

/-- The longest sign and digits at the start of a text that starts with an integer. -/
theorem leadingInt?_eq (h : StartsWithInt text negative digits) :
    ∃ sign, IsSign sign negative ∧ leadingInt? text = some (sign ++ digits) := by
  obtain ⟨hblanks, hsign, hne, hdigits, hrest⟩ := h
  rename_i blanks sign rest
  refine ⟨sign, hsign, ?_⟩
  obtain ⟨d, more, rfl⟩ := List.exists_cons_of_ne_nil hne
  have hd := hdigits d List.mem_cons_self
  have htake := takeWhile_append_of_head? hdigits hrest
  have hblank : ∀ c ∈ (d :: (more ++ rest)).head?, isBlank c = false := by
    rintro c ⟨⟩
    exact isBlank_eq_false_of_isDigit hd
  have hdrop := dropWhile_append_of_head? hblanks (hsign.isBlank_head? hblank)
  rw [List.cons_append] at htake ⊢
  unfold leadingInt?
  rw [hdrop, hsign.splitSign_append (head?_ne_sign_of_isDigit hd _)]
  dsimp only
  rw [htake]
  rfl

/-- A text that starts with an integer has that one at its start, unless its digits are too many. -/
theorem leadingInt_eq (h : StartsWithInt text negative digits) :
    leadingInt text =
      if maxDigits < digits.length then .error (.tooManyDigits digits.length)
      else .ok (some (signedInt negative digits)) := by
  obtain ⟨sign, hsign, hstart⟩ := h.leadingInt?_eq
  have hread : takeSign (sign ++ digits) = (negative, digits) := by
    obtain ⟨-, -, hne, hdigits, -⟩ := h
    obtain ⟨d, more, rfl⟩ := List.exists_cons_of_ne_nil hne
    exact hsign.takeSign_append (head?_ne_sign_of_isDigit (hdigits d List.mem_cons_self) more)
  unfold leadingInt
  rw [hstart]
  dsimp only
  unfold readInt
  rw [hread]
  dsimp only
  by_cases hlong : maxDigits < digits.length
  · rw [if_pos hlong, if_pos hlong]
  · rw [if_neg hlong, if_neg hlong]
    rfl

end StartsWithInt

/-- A text starts with an integer, or it has none at its start. -/
theorem leadingInt_cases (text : List Char) :
    (∃ negative digits, StartsWithInt text negative digits) ∨ leadingInt text = .ok none := by
  obtain ⟨sign, negative, body, hsign, hsplit, hbody⟩ := splitSign_cases (text.dropWhile isBlank)
  cases hdigits : body.takeWhile isDigit with
  | nil =>
    right
    unfold leadingInt leadingInt?
    rw [hsplit]
    dsimp only
    rw [hdigits]
    rfl
  | cons d more =>
    left
    refine ⟨negative, d :: more, ?_⟩
    have hparts : text = text.takeWhile isBlank ++
        (sign ++ (d :: more ++ body.dropWhile isDigit)) := by
      rw [← hdigits, List.takeWhile_append_dropWhile, ← hbody, List.takeWhile_append_dropWhile]
    rw [hparts]
    refine .intro (List.all_eq_true.1 List.all_takeWhile) hsign (List.cons_ne_nil _ _) ?_
      (head?_dropWhile body)
    rw [← hdigits]
    exact List.all_eq_true.1 List.all_takeWhile

end TransformPreset
