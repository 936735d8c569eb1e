import Mathlib.Tactic.Ring
import TransformPreset.Number.Order

/-!
# Rounding keeps the order

Rounding to a binary64 number moves no fraction past a count of units that a finite number has
(`le_roundToUnits`, `roundToUnits_le`). Two fractions therefore keep their order
(`roundToUnits_mono`): near fractions are rounded to the same distance, and others have a power of
two between them. For numbers, an integer that is not less than a binary64 number still is not less
once it is rounded (`Number.lt_eq_false_of_ofInt?`), and neither is a fraction less than a smaller
one (`Number.lt_ofRatio`). A decimal that counts fractions of one is rounded as a fraction, however
small it is (`ofDecimal_eq_ofRatio`).
-/

namespace TransformPreset

namespace Binary64

/-! ## The nearest whole number -/

/-- A whole number that is at most a quotient is at most its rounding. -/
theorem le_roundDiv {k num den : Nat} (hden : 0 < den) (h : k * den ≤ num) :
    k ≤ roundDiv num den := by
  obtain ⟨-, hupper⟩ := roundDiv_bounds num den hden
  have hmul : 2 * k * den < (2 * roundDiv num den + 2) * den := by
    calc 2 * k * den = 2 * (k * den) := Nat.mul_assoc _ _ _
      _ ≤ 2 * (roundDiv num den * den) + den := by omega
      _ < (2 * roundDiv num den + 2) * den := by rw [Nat.add_mul, Nat.mul_assoc]; omega
  have := Nat.lt_of_mul_lt_mul_right hmul
  omega

/-- A whole number that a quotient is at most, its rounding is at most. -/
theorem roundDiv_le_of_le_mul {k num den : Nat} (hden : 0 < den) (h : num ≤ k * den) :
    roundDiv num den ≤ k := by
  obtain ⟨hlower, -⟩ := roundDiv_bounds num den hden
  have hmul : 2 * roundDiv num den * den < (2 * k + 2) * den := by
    calc 2 * roundDiv num den * den = 2 * (roundDiv num den * den) := Nat.mul_assoc _ _ _
      _ ≤ 2 * (k * den) + den := by omega
      _ < (2 * k + 2) * den := by rw [Nat.add_mul, Nat.mul_assoc]; omega
  have := Nat.lt_of_mul_lt_mul_right hmul
  omega

/-- Rounding keeps the order of quotients. -/
theorem roundDiv_mono {n d m e : Nat} (hd : 0 < d) (he : 0 < e) (h : n * e ≤ m * d) :
    roundDiv n d ≤ roundDiv m e := by
  have hn : d * (n / d) + n % d = n := Nat.div_add_mod n d
  have hm : e * (m / e) + m % e = m := Nat.div_add_mod m e
  have hfloor : n / d ≤ m / e := by
    rw [Nat.le_div_iff_mul_le he]
    refine Nat.le_of_mul_le_mul_right ?_ hd
    calc n / d * e * d = d * (n / d) * e := by ring
      _ ≤ n * e := Nat.mul_le_mul_right _ (by omega)
      _ ≤ m * d := h
  rcases Nat.lt_or_eq_of_le hfloor with hlt | heq
  · calc roundDiv n d ≤ m / e := roundDiv_le hlt
      _ ≤ roundDiv m e := le_roundDiv he (by rw [Nat.mul_comm]; omega)
  -- Over the same whole number, the remainders are in the same order.
  · have hrest : n % d * e ≤ m % e * d := by
      refine Nat.le_of_add_le_add_left (a := d * (n / d) * e) ?_
      calc d * (n / d) * e + n % d * e = n * e := by rw [← Nat.add_mul, hn]
        _ ≤ m * d := h
        _ = (e * (m / e) + m % e) * d := by rw [hm]
        _ = d * (n / d) * e + m % e * d := by rw [heq]; ring
    unfold roundDiv
    rw [← heq]
    split
    · split <;> omega
    · rename_i hup
      rw [if_neg]
      rintro (hless | ⟨htie, heven⟩)
      · -- The greater remainder is below one half, so the lesser one is.
        have hmul : 2 * (n % d) * e < d * e := by
          calc 2 * (n % d) * e = 2 * (n % d * e) := Nat.mul_assoc _ _ _
            _ ≤ 2 * (m % e * d) := Nat.mul_le_mul_left _ hrest
            _ = 2 * (m % e) * d := (Nat.mul_assoc _ _ _).symm
            _ < e * d := Nat.mul_lt_mul_of_pos_right hless hd
            _ = d * e := Nat.mul_comm _ _
        exact hup (.inl (Nat.lt_of_mul_lt_mul_right hmul))
      · have hmul : 2 * (n % d) * e ≤ d * e := by
          calc 2 * (n % d) * e = 2 * (n % d * e) := Nat.mul_assoc _ _ _
            _ ≤ 2 * (m % e * d) := Nat.mul_le_mul_left _ hrest
            _ = 2 * (m % e) * d := (Nat.mul_assoc _ _ _).symm
            _ = d * e := by rw [htie, Nat.mul_comm]
        have hhalf : 2 * (n % d) ≤ d := Nat.le_of_mul_le_mul_right hmul he
        exact hup (by omega)

/-! ## The nearest count of units -/

theorem log2_mono {m n : Nat} (h : m ≤ n) : m.log2 ≤ n.log2 := by
  by_cases hzero : m = 0
  · rw [hzero]
    exact Nat.zero_le _
  · have hpos : n ≠ 0 := by omega
    exact (Nat.le_log2 hpos).2 (Nat.le_trans (Nat.log2_self_le hzero) h)

theorem stepNear_pos (num den : Nat) : 0 < stepNear num den :=
  Nat.pow_pos (by decide)

/-- A count of steps that is at most a fraction is at most its rounding. -/
theorem le_roundToUnits_of_dvd {num den u : Nat} (hden : 0 < den) (hstep : stepNear num den ∣ u)
    (h : u * den ≤ num * unitsPerOne) : u ≤ roundToUnits num den := by
  obtain ⟨k, rfl⟩ := hstep
  rw [roundToUnits, Nat.mul_comm]
  refine Nat.mul_le_mul_right _ (le_roundDiv (Nat.mul_pos hden (stepNear_pos num den)) ?_)
  calc k * (den * stepNear num den) = stepNear num den * k * den := by ring
    _ ≤ num * unitsPerOne := h

/-- The greatest power of two in a fraction is at most its rounding. -/
theorem two_pow_le_roundToUnits {num den : Nat} (hden : 0 < den)
    (hpos : num * unitsPerOne / den ≠ 0) :
    2 ^ (num * unitsPerOne / den).log2 ≤ roundToUnits num den := by
  refine le_roundToUnits_of_dvd hden (Nat.pow_dvd_pow 2 (Nat.sub_le _ _)) ?_
  exact (Nat.le_div_iff_mul_le hden).1 (Nat.log2_self_le hpos)

/-- A count of units that a number has stays at most a fraction that is rounded. -/
theorem le_roundToUnits {num den u : Nat} (hden : 0 < den) (hu : Nat.pow 2 (u.log2 - 52) ∣ u)
    (h : u * den ≤ num * unitsPerOne) : u ≤ roundToUnits num den := by
  have hle : u ≤ num * unitsPerOne / den := (Nat.le_div_iff_mul_le hden).2 h
  by_cases hlog : (num * unitsPerOne / den).log2 ≤ u.log2
  · have hstep : stepNear num den ∣ Nat.pow 2 (u.log2 - 52) := Nat.pow_dvd_pow 2 (by omega)
    exact le_roundToUnits_of_dvd hden (Nat.dvd_trans hstep hu) h
  -- A shorter count has a power of two between it and the fraction.
  · have hpos : num * unitsPerOne / den ≠ 0 := by
      intro hzero
      rw [hzero] at hlog
      exact hlog (Nat.zero_le _)
    calc u ≤ 2 ^ (u.log2 + 1) := Nat.le_of_lt Nat.lt_log2_self
      _ ≤ 2 ^ (num * unitsPerOne / den).log2 := Nat.pow_le_pow_right (by decide) (by omega)
      _ ≤ roundToUnits num den := two_pow_le_roundToUnits hden hpos

/-- A fraction that is rounded stays at most a count of units that a number has. -/
theorem roundToUnits_le {num den u : Nat} (hden : 0 < den) (hu : Nat.pow 2 (u.log2 - 52) ∣ u)
    (h : num * unitsPerOne ≤ u * den) : roundToUnits num den ≤ u := by
  have hlog : (num * unitsPerOne / den).log2 ≤ u.log2 :=
    log2_mono (Nat.div_le_of_le_mul (by rw [Nat.mul_comm den]; exact h))
  have hstep : stepNear num den ∣ Nat.pow 2 (u.log2 - 52) := Nat.pow_dvd_pow 2 (by omega)
  obtain ⟨k, hk⟩ := Nat.dvd_trans hstep hu
  rw [roundToUnits, hk, Nat.mul_comm]
  refine Nat.mul_le_mul_left _ (roundDiv_le_of_le_mul (Nat.mul_pos hden (stepNear_pos num den)) ?_)
  calc num * unitsPerOne ≤ u * den := h
    _ = k * (den * stepNear num den) := by rw [hk]; ring

/-- Rounding keeps the order of fractions. -/
theorem roundToUnits_mono {a b c d : Nat} (hb : 0 < b) (hd : 0 < d) (h : a * d ≤ c * b) :
    roundToUnits a b ≤ roundToUnits c d := by
  have hunits : a * unitsPerOne * d ≤ c * unitsPerOne * b := by
    calc a * unitsPerOne * d = a * d * unitsPerOne := by ring
      _ ≤ c * b * unitsPerOne := Nat.mul_le_mul_right _ h
      _ = c * unitsPerOne * b := by ring
  have hfloor : a * unitsPerOne / b ≤ c * unitsPerOne / d := by
    rw [Nat.le_div_iff_mul_le hd]
    refine Nat.le_of_mul_le_mul_right ?_ hb
    calc a * unitsPerOne / b * d * b = b * (a * unitsPerOne / b) * d := by ring
      _ ≤ a * unitsPerOne * d := Nat.mul_le_mul_right _ (Nat.mul_div_le _ _)
      _ ≤ c * unitsPerOne * b := hunits
  by_cases hlog : (c * unitsPerOne / d).log2 ≤ (a * unitsPerOne / b).log2
  · -- Both are rounded to the same distance.
    have hlogs : (a * unitsPerOne / b).log2 = (c * unitsPerOne / d).log2 :=
      Nat.le_antisymm (log2_mono hfloor) hlog
    have hstep : stepNear a b = stepNear c d := by
      rw [stepNear, stepNear, hlogs]
    rw [roundToUnits, roundToUnits, hstep]
    refine Nat.mul_le_mul_right _ (roundDiv_mono (Nat.mul_pos hb (stepNear_pos c d))
      (Nat.mul_pos hd (stepNear_pos c d)) ?_)
    calc a * unitsPerOne * (d * stepNear c d)
        = a * unitsPerOne * d * stepNear c d := by ring
      _ ≤ c * unitsPerOne * b * stepNear c d := Nat.mul_le_mul_right _ hunits
      _ = c * unitsPerOne * (b * stepNear c d) := by ring
  -- The greater one has a power of two below it that the lesser one does not reach.
  · have hpos : c * unitsPerOne / d ≠ 0 := by
      intro hzero
      rw [hzero] at hlog
      exact hlog (Nat.zero_le _)
    refine Nat.le_trans ?_ (two_pow_le_roundToUnits hd hpos)
    refine roundToUnits_le hb ?_ ?_
    · rw [Nat.log2_two_pow]
      exact Nat.pow_dvd_pow 2 (Nat.sub_le _ _)
    · have hlt : a * unitsPerOne / b < 2 ^ (c * unitsPerOne / d).log2 :=
        Nat.lt_of_lt_of_le Nat.lt_log2_self (Nat.pow_le_pow_right (by decide) (by omega))
      exact Nat.le_of_lt ((Nat.div_lt_iff_lt_mul hb).1 hlt)

/-- The number that an integer is rounded to is finite. -/
theorem exists_finite_of_ofInt? {n : Int} {x : Binary64} (h : ofInt? n = some x) :
    ∃ hunits, x = .finite (n < 0) (roundToUnits n.natAbs 1) hunits := by
  unfold ofInt? ofRatio at h
  split at h
  · rename_i hfinite
    exact ⟨representable_roundToUnits n.natAbs 1 hfinite, (Option.some.inj h).symm⟩
  · cases h

/-! ## Decimals -/

/-- A decimal too small for the least positive number rounds to nothing. -/
theorem roundToUnits_eq_zero {num den : Nat} (h : 2 * (num * unitsPerOne) < den) :
    roundToUnits num den = 0 := by
  have hzero : num * unitsPerOne / den = 0 := Nat.div_eq_of_lt (by omega)
  have hstep : stepNear num den = 1 := by
    rw [stepNear, hzero]
    rfl
  rw [roundToUnits, hstep, Nat.mul_one, Nat.mul_one, roundDiv, hzero,
    Nat.mod_eq_of_lt (by omega), if_pos (.inl h)]

/-- A fraction that rounds to nothing is zero. -/
theorem ofRatio_eq_zero {negative : Bool} {num den : Nat} (h : roundToUnits num den = 0) :
    ofRatio negative num den = zero negative := by
  have hlt : roundToUnits num den < overflow := by
    rw [h]
    exact representable_zero.1
  rw [ofRatio, dif_pos hlt]
  congr 1

/-- A decimal that counts fractions of one is the fraction that it is. -/
theorem ofDecimal_eq_ofRatio (negative : Bool) (digits places : Nat) :
    ofDecimal negative digits (-places) = ofRatio negative digits (Nat.pow 10 places) := by
  unfold ofDecimal
  split
  · rename_i hzero
    subst hzero
    have hden : 0 < Nat.pow 10 places := Nat.pow_pos (by decide)
    refine (ofRatio_eq_zero (roundToUnits_eq_zero ?_)).symm
    rw [Nat.zero_mul]
    exact hden
  rw [if_neg (by omega)]
  split
  · rename_i hsmall
    refine (ofRatio_eq_zero (roundToUnits_eq_zero ?_)).symm
    obtain ⟨k, rfl⟩ : ∃ k, places = digits.log2 + k := ⟨places - digits.log2, by omega⟩
    have hscale : 2 ^ 2 * unitsPerOne ≤ 10 ^ k := by
      obtain ⟨least, hleast, hunits⟩ : ∃ least ≤ k, 2 ^ 2 * unitsPerOne ≤ Nat.pow 10 least :=
        ⟨402, by omega, by decide +kernel⟩
      exact Nat.le_trans hunits (Nat.pow_le_pow_right (by decide) hleast)
    calc 2 * (digits * unitsPerOne)
        < 2 * (2 ^ (digits.log2 + 1) * unitsPerOne) := by
          have := Nat.mul_lt_mul_of_pos_right (Nat.lt_log2_self (n := digits)) unitsPerOne_pos
          omega
      _ = 2 ^ digits.log2 * (2 ^ 2 * unitsPerOne) := by ring
      _ ≤ 10 ^ digits.log2 * 10 ^ k := Nat.mul_le_mul (Nat.pow_le_pow_left (by decide) _) hscale
      _ = 10 ^ (digits.log2 + k) := (Nat.pow_add _ _ _).symm
  · split
    · -- Only a whole number has no places.
      rename_i hnonneg
      obtain rfl : places = 0 := by omega
      show ofRatio negative (digits * 1) 1 = ofRatio negative digits 1
      rw [Nat.mul_one]
    · rw [Int.neg_neg, Int.toNat_natCast]

end Binary64

/-! ## Numbers -/

namespace Number

/-- A lesser fraction is not greater once both are rounded. -/
theorem lt_ofRatio {a b c d : Nat} (hb : 0 < b) (hd : 0 < d) (h : a * d ≤ c * b) :
    (float (.ofRatio false c d)).lt (float (.ofRatio false a b)) = false := by
  have hmono := Binary64.roundToUnits_mono hb hd h
  unfold Binary64.ofRatio
  split
  · rename_i hc
    rw [dif_pos (Nat.lt_of_le_of_lt hmono hc)]
    refine decide_eq_false ?_
    simp only [Binary64.signedUnits, Bool.false_eq_true, if_false]
    omega
  · split <;> rfl

/-- An integer that is not less than a binary64 number is not less once it is rounded. -/
theorem lt_eq_false_of_ofInt? {n : Int} {x y : Binary64} (hx : Binary64.ofInt? n = some x)
    (h : (int n).lt (float y) = false) : (float x).lt (float y) = false := by
  obtain ⟨-, rfl⟩ := Binary64.exists_finite_of_ofInt? hx
  cases y with
  | nan => rfl
  | infinite negative =>
    cases negative with
    | true => rfl
    | false => cases h
  | finite negative units hunits =>
    have hle : Binary64.signedUnits negative units ≤ n * Binary64.unitsPerOne := by
      have := of_decide_eq_false h
      omega
    refine decide_eq_false ?_
    rw [Int.not_lt]
    have hpos : (0 : Int) < Binary64.unitsPerOne := Int.natCast_pos.2 Binary64.unitsPerOne_pos
    by_cases hn : n < 0
    · -- Below zero the magnitudes are in the other order.
      have hbelow : n * Binary64.unitsPerOne < 0 := Int.mul_neg_of_neg_of_pos hn hpos
      cases negative with
      | false =>
        simp only [Binary64.signedUnits, Bool.false_eq_true, if_false] at hle
        omega
      | true =>
        have habs := Binary64.signedUnits_natAbs n Binary64.unitsPerOne
        simp only [Binary64.signedUnits, decide_eq_true hn, if_true] at hle habs ⊢
        have := @Binary64.roundToUnits_le n.natAbs 1 units Nat.one_pos hunits.2 (by omega)
        omega
    · cases negative with
      | true =>
        simp only [Binary64.signedUnits, decide_eq_false hn, Bool.false_eq_true, if_false, if_true]
        omega
      | false =>
        have habs := Binary64.signedUnits_natAbs n Binary64.unitsPerOne
        simp only [Binary64.signedUnits, decide_eq_false hn, Bool.false_eq_true, if_false]
          at hle habs ⊢
        have := @Binary64.le_roundToUnits n.natAbs 1 units Nat.one_pos hunits.2 (by omega)
        omega

end Number

end TransformPreset
