import TransformPreset.Number.Written
import TransformPreset.Proofs.Number.Digits

/-!
# Numbers in writing hold no tag

A number is written with digits, signs, points and the letters of an exponent, of infinity and of
not-a-number, so a markup of it has no bracket that could open a tag (`noBracket_writtenInt`,
`noBracket_writtenGeneral`).
-/

namespace TransformPreset

/-- No digit is an opening bracket. -/
theorem noBracket_natDigits (n : Nat) : '[' ∉ natDigits n :=
  fun h => absurd (isDigit_of_mem_natDigits _ h) (by decide)

/-- A minus is no bracket either. -/
theorem noBracket_signed {text : List Char} (h : '[' ∉ text) (negative : Bool) :
    '[' ∉ (signed negative text).toList := by
  unfold signed
  rw [String.toList_ofList]
  split
  · exact List.not_mem_cons_of_ne_of_not_mem (by decide) h
  · exact h

/-- An integer is written without a bracket. -/
theorem noBracket_writtenInt (n : Int) : '[' ∉ (writtenInt n).toList :=
  noBracket_signed (noBracket_natDigits _) _

namespace Layout

variable {digits : List Char}

/-- So are digits with the point in place. -/
theorem noBracket_positional (layout : Layout) (h : '[' ∉ digits) (exponent : Int) :
    '[' ∉ layout.positional digits exponent := by
  have hzeros : ∀ count, '[' ∉ List.replicate count '0' :=
    fun count hmem => absurd (List.eq_of_mem_replicate hmem) (by decide)
  have htake : ∀ count, '[' ∉ digits.take count := fun count hmem => h (List.mem_of_mem_take hmem)
  have hdrop : ∀ count, '[' ∉ digits.drop count := fun count hmem => h (List.mem_of_mem_drop hmem)
  unfold positional
  dsimp only
  split
  · simp [hzeros, h]
  · split
    · split <;> simp [hzeros, htake]
    · simp [hzeros, htake, hdrop]

/-- So is an exponent. -/
theorem noBracket_exponentText (exponent : Int) : '[' ∉ exponentText exponent := by
  unfold exponentText
  dsimp only
  split <;> split <;> simp [noBracket_natDigits]

/-- So is a decimal. -/
theorem noBracket_text (layout : Layout) (decimal : Decimal) : '[' ∉ layout.text decimal := by
  have hdigits : '[' ∉ ((natDigits decimal.digits).reverse.dropWhile (· == '0')).reverse := by
    intro hmem
    have hdropped := (List.dropWhile_sublist _).subset (List.mem_reverse.1 hmem)
    exact noBracket_natDigits _ (List.mem_reverse.1 hdropped)
  unfold text
  dsimp only
  split
  · exact noBracket_positional layout hdigits _
  · rw [List.mem_append, not_or]
    refine ⟨?_, noBracket_exponentText _⟩
    unfold pointAfterFirst
    split
    · exact List.not_mem_nil
    · rename_i hsingle
      exact hsingle ▸ hdigits
    · rename_i first more _ hmany
      rw [hmany] at hdigits
      simp only [List.mem_cons, not_or] at hdigits ⊢
      exact ⟨hdigits.1, by decide, hdigits.2⟩

end Layout

/-- A number in a table is written without a bracket. -/
theorem noBracket_writtenGeneral (x : Binary64) : '[' ∉ x.writtenGeneral.toList := by
  unfold Binary64.writtenGeneral
  split
  · decide
  · exact noBracket_signed (by decide) _
  · refine noBracket_signed ?_ _
    split
    · decide
    · exact Layout.noBracket_text _ _

end TransformPreset
