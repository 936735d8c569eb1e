import TransformPreset.Proofs.Number.FloatText
import TransformPreset.Proofs.Number.Shortest

/-!
# The forms in which numbers are written

A number that is not negative is written in one of four forms (`Binary64.form_ofDecimal`): an
infinity by its name, a number of middling size by digits with a point among them, and any other one
with an exponent, behind a single digit or behind digits with a point after the first. The digits
with a point among them read back as the number (`Decimal.exists_pointed`): zeros at the end of its
shortest decimal are left out, and zeros before or behind the others put the point in place, so the
fraction stays the same (`Layout.exists_positional`).
-/

namespace TransformPreset

/-! ## Digits without zeros at the end -/

/-- The digits of a number without the zeros at their end. -/
def significantDigits (n : Nat) : List Char :=
  ((natDigits n).reverse.dropWhile (· == '0')).reverse

/-- What is dropped is zeros. -/
theorem exists_natDigits_eq (n : Nat) :
    ∃ zeros, natDigits n = significantDigits n ++ List.replicate zeros '0' := by
  refine ⟨((natDigits n).reverse.takeWhile (· == '0')).length, ?_⟩
  have hzeros : ((natDigits n).reverse.takeWhile (· == '0')).reverse =
      List.replicate ((natDigits n).reverse.takeWhile (· == '0')).length '0' := by
    rw [← List.length_reverse]
    refine List.eq_replicate_of_mem fun c hc => ?_
    exact eq_of_beq (List.all_eq_true.1 List.all_takeWhile c (List.mem_reverse.1 hc))
  rw [← hzeros, significantDigits, ← List.reverse_append, List.takeWhile_append_dropWhile,
    List.reverse_reverse]

/-- Zeros before digits say nothing. -/
theorem digitsValue_zeros_append (zeros : Nat) (digits : List Char) :
    digitsValue (List.replicate zeros '0' ++ digits) = digitsValue digits := by
  induction zeros with
  | zero => rfl
  | succ zeros ih =>
    have hzero : digitsValue ['0'] = 0 := rfl
    rw [List.replicate_succ, List.cons_append, ← List.singleton_append, digitsValue_append, ih,
      hzero, Nat.zero_mul, Nat.zero_add]

/-- Zeros after digits move them up. -/
theorem digitsValue_append_zeros (digits : List Char) (zeros : Nat) :
    digitsValue (digits ++ List.replicate zeros '0') = digitsValue digits * 10 ^ zeros := by
  have hzeros : digitsValue (List.replicate zeros '0') = 0 := by
    rw [← List.append_nil (List.replicate zeros '0'), digitsValue_zeros_append]
    rfl
  rw [digitsValue_append, hzeros, List.length_replicate, Nat.add_zero]

/-- The significant digits are plain. -/
theorem isDigit_of_mem_significantDigits {n : Nat} :
    ∀ c ∈ significantDigits n, c.isDigit = true := by
  intro c hc
  obtain ⟨zeros, heq⟩ := exists_natDigits_eq n
  exact isDigit_of_mem_natDigits c (heq ▸ List.mem_append_left _ hc)

/-- A positive number has a significant digit. -/
theorem significantDigits_ne_nil {n : Nat} (h : 0 < n) : significantDigits n ≠ [] := by
  obtain ⟨zeros, heq⟩ := exists_natDigits_eq n
  intro hnil
  have hvalue := digitsValue_natDigits n
  rw [heq, hnil, digitsValue_append_zeros] at hvalue
  have hzero : digitsValue [] = 0 := rfl
  rw [hzero, Nat.zero_mul] at hvalue
  omega

namespace Layout

variable {digits : List Char}

/-! ## The two forms -/

/-- Digits with the point in place are digits, a point and digits, which stand for the first digits
at their place. -/
theorem exists_positional (hdigits : ∀ c ∈ digits, c.isDigit = true) (hne : digits ≠ [])
    (exponent : Int) :
    ∃ whole fraction, full.positional digits exponent = whole ++ '.' :: fraction ∧ whole ≠ [] ∧
      fraction ≠ [] ∧ (∀ c ∈ whole, c.isDigit = true) ∧ (∀ c ∈ fraction, c.isDigit = true) ∧
      (digitsValue (whole ++ fraction) : ℚ) / 10 ^ fraction.length =
        digitsValue digits * 10 ^ (exponent + 1 - digits.length) := by
  have hzeros : ∀ count, ∀ c ∈ List.replicate count '0', c.isDigit = true := by
    intro count c hc
    rw [List.eq_of_mem_replicate hc]
    decide
  unfold positional
  dsimp only
  split
  · rename_i hneg
    refine ⟨['0'], List.replicate ((-exponent).toNat - 1) '0' ++ digits, rfl, by simp, ?_, ?_, ?_,
      ?_⟩
    · exact fun hnil => hne (List.append_eq_nil_iff.1 hnil).2
    · exact hzeros 1
    · intro c hc
      exact (List.mem_append.1 hc).elim (hzeros _ c) (hdigits c)
    · rw [← List.replicate_one, digitsValue_zeros_append, digitsValue_zeros_append,
        List.length_append, List.length_replicate, div_eq_mul_inv, ← zpow_natCast, ← zpow_neg]
      congr 2
      omega
  · rename_i hnonneg
    obtain ⟨places, rfl⟩ := Int.eq_ofNat_of_zero_le (Int.not_lt.1 hnonneg)
    rw [Int.toNat_natCast]
    split
    · rename_i hwhole
      have hlength : digits.length ≤ places + 1 :=
        List.drop_eq_nil_iff.1 (List.isEmpty_iff.1 hwhole)
      rw [List.take_of_length_le hlength]
      refine ⟨_, ['0'], rfl, ?_, by simp, ?_, hzeros 1, ?_⟩
      · exact fun hnil => hne (List.append_eq_nil_iff.1 hnil).1
      · intro c hc
        exact (List.mem_append.1 hc).elim (hdigits c) (hzeros _ c)
      · -- The zero behind the point is one more behind the digits.
        have hbehind : digits ++ List.replicate (places + 1 - digits.length) '0' ++ ['0'] =
            digits ++ List.replicate (places + 1 - digits.length + 1) '0' := by
          rw [List.append_assoc, ← List.replicate_succ']
        have hplaces : (places : Int) + 1 - digits.length = (places + 1 - digits.length : Nat) := by
          omega
        rw [hbehind, digitsValue_append_zeros, hplaces, zpow_natCast, List.length_singleton,
          pow_one]
        push_cast
        rw [pow_succ, ← mul_assoc, mul_div_assoc, div_self (by norm_num), mul_one]
    · rename_i hfraction
      have hlength : places + 1 < digits.length := by
        rw [List.isEmpty_iff, List.drop_eq_nil_iff] at hfraction
        omega
      have hnone : places + 1 - digits.length = 0 := by omega
      rw [hnone, List.replicate_zero, List.append_nil]
      refine ⟨_, _, rfl, ?_, fun hnil => hfraction (List.isEmpty_iff.2 hnil), ?_, ?_, ?_⟩
      · rw [Ne, List.take_eq_nil_iff, not_or]
        exact ⟨Nat.succ_ne_zero _, hne⟩
      · exact fun c hc => hdigits c (List.mem_of_mem_take hc)
      · exact fun c hc => hdigits c (List.mem_of_mem_drop hc)
      · rw [List.take_append_drop, List.length_drop, div_eq_mul_inv, ← zpow_natCast, ← zpow_neg]
        congr 2
        omega

/-- A decimal of middling size is written with its point in place, and another one with an
exponent. -/
theorem full_text (decimal : Decimal) : full.text decimal =
    if -4 ≤ decimal.exponent ∧ decimal.exponent < 16 then
      full.positional (significantDigits decimal.digits) decimal.exponent
    else pointAfterFirst (significantDigits decimal.digits) ++ exponentText decimal.exponent :=
  rfl

/-- Digits before an exponent are a single one, or more with a point after the first. -/
theorem pointAfterFirst_cases (hdigits : ∀ c ∈ digits, c.isDigit = true) (hne : digits ≠ []) :
    (∃ d, d.isDigit = true ∧ pointAfterFirst digits = [d]) ∨
      ∃ d more, d.isDigit = true ∧ more ≠ [] ∧ (∀ c ∈ more, c.isDigit = true) ∧
        pointAfterFirst digits = d :: '.' :: more := by
  match digits, hne with
  | [d], _ => exact .inl ⟨d, hdigits d List.mem_cons_self, rfl⟩
  | d :: e :: more, _ =>
    obtain ⟨hd, hmore⟩ := List.forall_mem_cons.1 hdigits
    exact .inr ⟨d, e :: more, hd, List.cons_ne_nil _ _, hmore, rfl⟩

end Layout

/-! ## Reading back -/

namespace Decimal

variable {count : Nat} {decimal : Decimal}

/-- A decimal of a count has as many digits. -/
theorem HasCount.length_natDigits (h : HasCount count decimal) (hcount : 0 < count) :
    (natDigits decimal.digits).length = count := by
  have hle : (natDigits decimal.digits).length ≤ count :=
    (Nat.length_toDigits_le_iff (by decide) hcount).2 h.2
  have hlt : count - 1 < (natDigits decimal.digits).length :=
    (Nat.pow_lt_pow_iff_right (by decide)).1
      (Nat.lt_of_le_of_lt h.1 (lt_pow_length_natDigits decimal.digits))
  omega

theorem HasCount.pos (h : HasCount count decimal) : 0 < decimal.digits :=
  Nat.lt_of_lt_of_le (Nat.pow_pos (by decide)) h.1

/-- A decimal of middling size is written with its point in place, and reads back. -/
theorem exists_pointed (h : HasCount count decimal) (hcount : 0 < count)
    (hplace : -4 ≤ decimal.exponent ∧ decimal.exponent < 16) :
    ∃ whole fraction, Layout.full.text decimal = whole ++ '.' :: fraction ∧ whole ≠ [] ∧
      fraction ≠ [] ∧ (∀ c ∈ whole, c.isDigit = true) ∧ (∀ c ∈ fraction, c.isDigit = true) ∧
      readFloat? (whole ++ '.' :: fraction) = some (value count decimal) := by
  obtain ⟨whole, fraction, htext, hwholeNe, hfractionNe, hwhole, hfraction, hratio⟩ :=
    Layout.exists_positional isDigit_of_mem_significantDigits (significantDigits_ne_nil h.pos)
      decimal.exponent
  refine ⟨whole, fraction, ?_, hwholeNe, hfractionNe, hwhole, hfraction, ?_⟩
  · rw [Layout.full_text, if_pos hplace, htext]
  obtain ⟨zeros, hzeros⟩ := exists_natDigits_eq decimal.digits
  have hlength := h.length_natDigits hcount
  have hdigits := digitsValue_natDigits decimal.digits
  rw [hzeros, List.length_append, List.length_replicate] at hlength
  rw [hzeros, digitsValue_append_zeros] at hdigits
  have hplaces : decimal.exponent + 1 - (significantDigits decimal.digits).length =
      zeros + (decimal.exponent - (count - 1)) := by omega
  have hdigitsq : (digitsValue (significantDigits decimal.digits) : ℚ) * 10 ^ zeros =
      decimal.digits := by exact_mod_cast hdigits
  have hvalue : (decimal.digits : ℚ) * 10 ^ (decimal.exponent - (count - 1)) =
      (digitsValue (whole ++ fraction) : Nat) / (Nat.pow 10 fraction.length : Nat) := by
    push_cast [Nat.pow_eq]
    rw [hratio, hplaces, zpow_add₀ (by norm_num), zpow_natCast, ← mul_assoc, hdigitsq]
  rw [readFloat?_of_digits hwhole hfraction hwholeNe, Binary64.ofDecimal_eq_ofRatio, value,
    Binary64.ofDecimal_eq_ofRatio_of_eq false (by omega) (Nat.pow_pos (by decide)) hvalue]
  rfl

end Decimal

/-! ## The forms -/

/-- How a number is written that is not negative. -/
inductive Binary64.Form (x : Binary64) : List Char → Prop
  /-- An infinity has a name. -/
  | infinite (h : x = .infinite false) : Form x "inf".toList
  /-- Digits with a point among them read back. -/
  | pointed {whole fraction : List Char} (hwholeNe : whole ≠ []) (hfractionNe : fraction ≠ [])
      (hwhole : ∀ c ∈ whole, c.isDigit = true) (hfraction : ∀ c ∈ fraction, c.isDigit = true)
      (hread : readFloat? (whole ++ '.' :: fraction) = some x) :
      Form x (whole ++ '.' :: fraction)
  /-- A single digit before an exponent. -/
  | single {d : Char} (hd : d.isDigit = true) (exponent : List Char) :
      Form x (d :: 'e' :: exponent)
  /-- Digits with a point after the first before an exponent. -/
  | scientific {d : Char} {more : List Char} (hd : d.isDigit = true) (hne : more ≠ [])
      (hmore : ∀ c ∈ more, c.isDigit = true) (exponent : List Char) :
      Form x (d :: '.' :: (more ++ 'e' :: exponent))

namespace Binary64

/-- A finite number that is not negative is written in one of the forms. -/
theorem form_finite {units : Nat} (hunits : Representable units) :
    Form (.finite false units hunits) (written (.finite false units hunits)).toList := by
  rcases Nat.eq_zero_or_pos units with rfl | hpos
  · have hzero : ∀ c ∈ ['0'], c.isDigit = true := List.all_eq_true.1 rfl
    have hread : readFloat? (['0'] ++ '.' :: ['0']) = some (.finite false 0 hunits) := by
      rw [readFloat?_of_digits hzero hzero (List.cons_ne_nil _ _)]
      rfl
    rw [written, if_pos rfl, signed, if_neg Bool.false_ne_true, String.toList_ofList]
    exact .pointed (List.cons_ne_nil _ _) (List.cons_ne_nil _ _) hzero hzero hread
  obtain ⟨count, hcount, hhas, hvalue⟩ := Decimal.shortest_spec hunits hpos
  rw [written, if_neg hpos.ne', signed, if_neg Bool.false_ne_true, String.toList_ofList]
  by_cases hplace : -4 ≤ (Decimal.shortest units).exponent ∧ (Decimal.shortest units).exponent < 16
  · obtain ⟨whole, fraction, htext, hwholeNe, hfractionNe, hwhole, hfraction, hread⟩ :=
      Decimal.exists_pointed hhas hcount hplace
    rw [htext]
    exact .pointed hwholeNe hfractionNe hwhole hfraction (hread.trans (congrArg some hvalue))
  · rw [Layout.full_text, if_neg hplace]
    rcases Layout.pointAfterFirst_cases isDigit_of_mem_significantDigits
      (significantDigits_ne_nil hhas.pos) with ⟨d, hd, hfirst⟩ | ⟨d, more, hd, hne, hmore, hfirst⟩
    · rw [hfirst]
      exact .single hd _
    · rw [hfirst]
      exact .scientific hd hne hmore _

/-- A decimal is written in one of the forms. -/
theorem form_ofDecimal (digits : Nat) (exponent : Int) :
    Form (ofDecimal false digits exponent) (ofDecimal false digits exponent).written.toList := by
  rcases ofDecimal_cases digits exponent with hinfinite | ⟨units, hunits, hfinite⟩
  · rw [hinfinite]
    exact .infinite rfl
  · rw [hfinite]
    exact form_finite hunits

end Binary64

end TransformPreset
