import Mathlib.Algebra.Order.Field.Rat
import Mathlib.Algebra.Order.Field.Power
import Mathlib.Tactic.FieldSimp
import Mathlib.Tactic.LinearCombination
import Mathlib.Tactic.Positivity
import Mathlib.Tactic.Ring
import TransformPreset.Number.Written
import TransformPreset.Proofs.Number.Digits
import TransformPreset.Proofs.Number.Rounding

/-!
# The shortest decimal reads back

The decimal of a binary64 number is found among the decimals of one digit, of two, and so on up to
seventeen. It has as many digits as its place says, and reads as the number (`shortest_spec`). Up to
sixteen digits the search sees to that itself. For the seventeenth digit nothing is tried: a decimal
that is off by one half of that digit at most is nearer to its number than to any other one
(`roundToUnits_of_near`), so that rounding the number to seventeen digits is enough
(`value_rounded`).

Fractions are compared as rationals. `leadingExponent_bounds` says what the place of the first digit
means, and `scaled_bounds` that the quotient whose whole part is taken for the digits has so many.
-/

namespace TransformPreset

namespace Binary64

/-! ## Equal fractions -/

/-- Equal fractions are rounded alike. -/
theorem ofRatio_congr (negative : Bool) {a b c d : Nat} (hb : 0 < b) (hd : 0 < d)
    (h : a * d = c * b) : ofRatio negative a b = ofRatio negative c d := by
  have hunits : roundToUnits a b = roundToUnits c d :=
    Nat.le_antisymm (roundToUnits_mono hb hd h.le) (roundToUnits_mono hd hb h.ge)
  unfold ofRatio
  simp only [hunits]

/-- A decimal that is not out of range is the fraction that is equal to it. -/
theorem ofDecimal_eq_ofRatio_of_eq (negative : Bool) {digits num den : Nat} {exponent : Int}
    (hexponent : exponent ≤ 400) (hden : 0 < den)
    (h : (digits : ℚ) * 10 ^ exponent = num / den) :
    ofDecimal negative digits exponent = ofRatio negative num den := by
  have hdenq : (den : ℚ) ≠ 0 := by positivity
  rcases Int.le_total 0 exponent with hnonneg | hneg
  · obtain ⟨places, rfl⟩ := Int.eq_ofNat_of_zero_le hnonneg
    have hratio : ofDecimal negative digits places =
        ofRatio negative (digits * Nat.pow 10 places) 1 := by
      by_cases hzero : digits = 0
      · rw [ofDecimal, if_pos hzero, hzero, Nat.zero_mul]
        refine (ofRatio_eq_zero (roundToUnits_eq_zero ?_)).symm
        rw [Nat.zero_mul]
        exact Nat.one_pos
      · rw [ofDecimal, if_neg hzero]
        have hlarge : ¬400 < (places : Int) := by omega
        have hsmall : ¬(places : Int) + digits.log2 + 401 < 0 := by omega
        rw [if_neg hlarge, if_neg hsmall, if_pos hnonneg]
        rfl
    rw [hratio]
    refine ofRatio_congr negative Nat.one_pos hden ?_
    rw [zpow_natCast, eq_div_iff hdenq] at h
    rw [Nat.mul_one]
    exact_mod_cast h
  · obtain ⟨places, hplaces⟩ := Int.eq_ofNat_of_zero_le (Int.neg_nonneg_of_nonpos hneg)
    obtain rfl : exponent = -places := by omega
    rw [ofDecimal_eq_ofRatio]
    refine ofRatio_congr negative (Nat.pow_pos (by decide)) hden ?_
    rw [zpow_neg, zpow_natCast, ← div_eq_mul_inv, div_eq_div_iff (by positivity) hdenq] at h
    exact_mod_cast h

/-- A fraction without a sign is rounded to a number without one. -/
theorem ofRatio_cases (num den : Nat) : ofRatio false num den = .infinite false ∨
    ∃ units hunits, ofRatio false num den = .finite false units hunits := by
  unfold ofRatio
  split
  · rename_i hfinite
    exact .inr ⟨_, representable_roundToUnits num den hfinite, rfl⟩
  · exact .inl rfl

/-- A decimal without a sign is read as one. -/
theorem ofDecimal_cases (digits : Nat) (exponent : Int) :
    ofDecimal false digits exponent = .infinite false ∨
      ∃ units hunits, ofDecimal false digits exponent = .finite false units hunits := by
  unfold ofDecimal
  split_ifs
  · exact .inr ⟨0, representable_zero, rfl⟩
  · exact .inl rfl
  · exact .inr ⟨0, representable_zero, rfl⟩
  · exact ofRatio_cases _ _
  · exact ofRatio_cases _ _

/-! ## Fractions near a number -/

/-- A quotient that is nearer to a whole number than one half is rounded to it. -/
theorem roundDiv_of_near {num den k : Nat} (hlower : 2 * (k * den) < 2 * num + den)
    (hupper : 2 * num < 2 * (k * den) + den) : roundDiv num den = k := by
  have hden : 0 < den := by omega
  obtain ⟨hbelow, habove⟩ := roundDiv_bounds num den hden
  have hle : roundDiv num den < k + 1 := by
    refine Nat.lt_of_mul_lt_mul_right (a := den) ?_
    rw [Nat.add_mul]
    omega
  have hge : k < roundDiv num den + 1 := by
    refine Nat.lt_of_mul_lt_mul_right (a := den) ?_
    rw [Nat.add_mul]
    omega
  omega

/-- A fraction that is off from a count of units by one half of its seventeenth digit at most is
rounded to that count. -/
theorem roundToUnits_of_near {num den u : Nat} (hden : 0 < den) (hpos : 0 < u)
    (hu : Nat.pow 2 (u.log2 - 52) ∣ u)
    (hlower : 2 * 10 ^ 16 * (u * den) ≤ 2 * 10 ^ 16 * (num * unitsPerOne) + u * den)
    (hupper : 2 * 10 ^ 16 * (num * unitsPerOne) ≤ 2 * 10 ^ 16 * (u * den) + u * den) :
    roundToUnits num den = u := by
  generalize hN : num * unitsPerOne = N at hlower hupper
  -- It is enough that a step divides the count, which is no more than `2 ^ 53` steps.
  have hsteps : ∀ s, s ∣ u → u ≤ 2 ^ 53 * s → stepNear num den = s →
      roundToUnits num den = u := by
    rintro s ⟨k, rfl⟩ hsmall hstep
    have hbound : s * k * den ≤ 2 ^ 53 * (den * s) := by
      calc s * k * den ≤ 2 ^ 53 * s * den := Nat.mul_le_mul_right _ hsmall
        _ = 2 ^ 53 * (den * s) := by ring
    have hcount : s * k * den = k * (den * s) := by ring
    have hspos : 0 < den * s := Nat.mul_pos hden (Nat.pos_of_mul_pos_right hpos)
    rw [roundToUnits, hstep, hN, Nat.mul_comm s k]
    refine congrArg (· * s) (roundDiv_of_near ?_ ?_)
    · omega
    · omega
  generalize hQ : N / den = Q
  have hstep : stepNear num den = 2 ^ (Q.log2 - 52) := by
    rw [stepNear, hN, hQ]
    rfl
  have hfloor : Q * den ≤ N := by
    rw [← hQ]
    exact Nat.div_mul_le_self N den
  have hceil : N < (Q + 1) * den := by
    rw [← hQ, Nat.mul_comm]
    exact Nat.lt_mul_div_succ N hden
  generalize hj : u.log2 = j at hu
  have hleast : 2 ^ j ≤ u := hj ▸ Nat.log2_self_le hpos.ne'
  have hgreatest : u < 2 ^ (j + 1) := hj ▸ Nat.lt_log2_self
  have hsmall : u ≤ 2 ^ 53 * 2 ^ (j - 52) := by
    rw [← Nat.pow_add]
    exact hgreatest.le.trans (Nat.pow_le_pow_right (by decide) (by omega))
  -- Two different counts with the step of the number are a step apart, which is too far.
  have hgap : ∀ {lower upper : Nat}, 2 ^ (j - 52) ∣ lower → 2 ^ (j - 52) ∣ upper → lower < upper →
      lower * den + 2 ^ (j - 52) * den ≤ upper * den := by
    rintro _ _ ⟨a, rfl⟩ ⟨b, rfl⟩ hab
    rw [← Nat.add_mul, ← Nat.mul_succ]
    exact Nat.mul_le_mul_right _ (Nat.mul_le_mul_left _ (Nat.lt_of_mul_lt_mul_left hab))
  have hoff : u * den ≤ 2 ^ 53 * (2 ^ (j - 52) * den) := by
    calc u * den ≤ 2 ^ 53 * 2 ^ (j - 52) * den := Nat.mul_le_mul_right _ hsmall
      _ = 2 ^ 53 * (2 ^ (j - 52) * den) := Nat.mul_assoc _ _ _
  have hstepPos : 0 < 2 ^ (j - 52) * den := Nat.mul_pos (Nat.two_pow_pos _) hden
  rcases Nat.lt_trichotomy Q.log2 j with hlt | heq | hgt
  · -- The fraction is below a power of two, and the count is that power.
    have hbelow : N < 2 ^ j * den := by
      have hQlt : Q < 2 ^ j :=
        Nat.lt_of_lt_of_le Nat.lt_log2_self (Nat.pow_le_pow_right (by decide) hlt)
      exact hceil.trans_le (Nat.mul_le_mul_right _ hQlt)
    obtain rfl : 2 ^ j = u := by
      refine hleast.eq_or_lt.resolve_right fun habove => ?_
      have := hgap (Nat.pow_dvd_pow 2 (Nat.sub_le j 52)) hu habove
      omega
    obtain ⟨i, rfl⟩ : ∃ i, j = i + 1 := ⟨j - 1, by omega⟩
    have hhalf : 2 ^ i * den ≤ N := by
      have hdouble : 2 ^ (i + 1) * den = 2 * (2 ^ i * den) := by
        rw [Nat.pow_succ]
        ring
      omega
    have hlog : Q.log2 = i := by
      have hle : 2 ^ i ≤ Q := by
        rw [← hQ]
        exact (Nat.le_div_iff_mul_le hden).2 hhalf
      have hne : Q ≠ 0 := (Nat.lt_of_lt_of_le (Nat.two_pow_pos i) hle).ne'
      have := (Nat.le_log2 hne).2 hle
      omega
    refine hsteps _ (Nat.pow_dvd_pow 2 (by omega)) ?_ (hlog ▸ hstep)
    rw [← Nat.pow_add]
    exact Nat.pow_le_pow_right (by decide) (by omega)
  · exact hsteps _ hu hsmall (heq ▸ hstep)
  · -- The fraction is not below the next power of two, from which the count is a step away.
    have hQge : 2 ^ (j + 1) ≤ Q := by
      have hne : Q ≠ 0 := by
        rintro rfl
        exact absurd hgt (Nat.not_lt_zero _)
      exact (Nat.pow_le_pow_right (by decide) hgt).trans (Nat.log2_self_le hne)
    have habove : 2 ^ (j + 1) * den ≤ N := (Nat.mul_le_mul_right _ hQge).trans hfloor
    have := hgap hu (Nat.pow_dvd_pow 2 (by omega)) hgreatest
    omega

end Binary64

namespace Decimal

variable {num den count : Nat}

/-! ## The place of the first digit -/

/-- A positive number has as many digits as its power of ten says. -/
theorem pow_length_natDigits_le {n : Nat} (h : 0 < n) : 10 ^ ((natDigits n).length - 1) ≤ n := by
  rcases Nat.eq_zero_or_pos ((natDigits n).length - 1) with hone | hmany
  · rw [hone]
    exact h
  · by_contra hlt
    have hfew : (natDigits n).length ≤ (natDigits n).length - 1 :=
      (Nat.length_toDigits_le_iff (by decide) hmany).2 (Nat.lt_of_not_le hlt)
    omega

/-- The first digit of a fraction counts the greatest power of ten in it. -/
theorem leadingExponent_bounds (hnum : 0 < num) (hden : 0 < den) :
    (10 : ℚ) ^ leadingExponent num den ≤ num / den ∧
      (num : ℚ) / den < 10 ^ (leadingExponent num den + 1) := by
  have hnumq : (0 : ℚ) < num := by exact_mod_cast hnum
  have hdenq : (0 : ℚ) < den := by exact_mod_cast hden
  unfold leadingExponent
  split
  · rename_i hle
    generalize hL : (natDigits (num / den)).length = L
    have hpos : 0 < num / den := Nat.div_pos hle hden
    have hLpos : 0 < L := by
      rw [← hL]
      exact List.length_pos_iff.2 (natDigits_ne_nil _)
    obtain ⟨e, rfl⟩ : ∃ e, L = e + 1 := ⟨L - 1, by omega⟩
    have hlower : 10 ^ e * den ≤ num := by
      have hdigits := pow_length_natDigits_le hpos
      rw [hL] at hdigits
      exact (Nat.le_div_iff_mul_le hden).1 hdigits
    have hupper : num < 10 ^ (e + 1) * den := by
      have hdigits := lt_pow_length_natDigits (num / den)
      rw [hL] at hdigits
      exact (Nat.div_lt_iff_lt_mul hden).1 hdigits
    have hexponent : ((e + 1 : Nat) : Int) - 1 = e := by omega
    have hnext : (e : Int) + 1 = (e + 1 : Nat) := by omega
    rw [hexponent, hnext, zpow_natCast, zpow_natCast, le_div_iff₀ hdenq, div_lt_iff₀ hdenq]
    exact ⟨by exact_mod_cast hlower, by exact_mod_cast hupper⟩
  · rename_i hlt
    generalize hq : (den + num - 1) / num = q
    -- The quotient the other way round, rounded up, is more than one.
    have hlower : (q - 1) * num < den := by
      have hmul := Nat.div_mul_le_self (den + num - 1) num
      rw [hq] at hmul
      rw [Nat.sub_mul]
      omega
    have hupper : den ≤ q * num := by
      have hmul := Nat.lt_mul_div_succ (den + num - 1) hnum
      rw [hq, Nat.mul_succ, Nat.mul_comm] at hmul
      omega
    have hpos : 0 < q - 1 := by
      have htwo : 2 ≤ q := by
        rw [← hq]
        exact (Nat.le_div_iff_mul_le hnum).2 (by omega)
      omega
    generalize hL : (natDigits (q - 1)).length = L
    have hLpos : 0 < L := by
      rw [← hL]
      exact List.length_pos_iff.2 (natDigits_ne_nil _)
    obtain ⟨e, rfl⟩ : ∃ e, L = e + 1 := ⟨L - 1, by omega⟩
    have habove : den ≤ num * 10 ^ (e + 1) := by
      have hdigits := lt_pow_length_natDigits (q - 1)
      rw [hL] at hdigits
      calc den ≤ q * num := hupper
        _ ≤ 10 ^ (e + 1) * num := Nat.mul_le_mul_right _ (by omega)
        _ = num * 10 ^ (e + 1) := Nat.mul_comm _ _
    have hbelow : num * 10 ^ e < den := by
      have hdigits := pow_length_natDigits_le hpos
      rw [hL] at hdigits
      calc num * 10 ^ e = 10 ^ e * num := Nat.mul_comm _ _
        _ ≤ (q - 1) * num := Nat.mul_le_mul_right _ hdigits
        _ < den := hlower
    have hnext : -((e + 1 : Nat) : Int) + 1 = -(e : Int) := by omega
    rw [hnext, zpow_neg, zpow_neg, zpow_natCast, zpow_natCast, ← one_div, ← one_div,
      div_le_div_iff₀ (by positivity) hdenq, div_lt_div_iff₀ hdenq (by positivity)]
    rw [one_mul]
    exact ⟨by exact_mod_cast habove, by exact_mod_cast hbelow⟩

/-! ## The digits of one count -/

/-- The quotient whose whole part has `count` digits is the fraction over the power of ten of the
last of them. -/
theorem scaled_eq (hden : 0 < den) : 0 < (scaled num den count).2 ∧
    ((scaled num den count).1 : ℚ) / (scaled num den count).2 *
      10 ^ (leadingExponent num den - (count - 1)) = num / den := by
  have hdenq : (den : ℚ) ≠ 0 := by positivity
  unfold scaled
  generalize leadingExponent num den - (count - 1) = last
  dsimp only
  split
  · rename_i hlast
    obtain ⟨places, rfl⟩ := Int.eq_ofNat_of_zero_le hlast
    refine ⟨Nat.mul_pos hden (Nat.pow_pos (by decide)), ?_⟩
    rw [Int.toNat_natCast, zpow_natCast]
    push_cast [Nat.pow_eq]
    field_simp
  · rename_i hlast
    obtain ⟨places, rfl⟩ : ∃ places : Nat, last = -places := ⟨(-last).toNat, by omega⟩
    refine ⟨hden, ?_⟩
    rw [Int.neg_neg, Int.toNat_natCast, zpow_neg, zpow_natCast]
    push_cast [Nat.pow_eq]
    field_simp

/-- The whole part of that quotient has `count` digits. -/
theorem scaled_bounds (hnum : 0 < num) (hden : 0 < den) (hcount : 0 < count) :
    10 ^ (count - 1) * (scaled num den count).2 ≤ (scaled num den count).1 ∧
      (scaled num den count).1 < 10 ^ count * (scaled num den count).2 := by
  obtain ⟨hlower, hupper⟩ := leadingExponent_bounds hnum hden
  obtain ⟨hpos, heq⟩ := @scaled_eq num den count hden
  obtain ⟨k, rfl⟩ : ∃ k, count = k + 1 := ⟨count - 1, by omega⟩
  generalize scaled num den (k + 1) = quotient at *
  generalize leadingExponent num den = e at *
  obtain ⟨n, d⟩ := quotient
  have hlast : (0 : ℚ) < 10 ^ (e - ((k + 1 : Nat) - 1 : Int)) := zpow_pos (by norm_num) _
  -- The powers of ten around the fraction are those around the quotient, moved by as many places.
  have hfirst : (10 : ℚ) ^ e = 10 ^ k * 10 ^ (e - ((k + 1 : Nat) - 1 : Int)) := by
    rw [← zpow_natCast, ← zpow_add₀ (by norm_num)]
    congr 1
    omega
  have hnext : (10 : ℚ) ^ (e + 1) = 10 ^ (k + 1) * 10 ^ (e - ((k + 1 : Nat) - 1 : Int)) := by
    rw [← zpow_natCast, ← zpow_add₀ (by norm_num)]
    congr 1
    omega
  have hdq : (0 : ℚ) < d := by exact_mod_cast hpos
  rw [← heq, hfirst] at hlower
  rw [← heq, hnext] at hupper
  have hmin := le_of_mul_le_mul_right hlower hlast
  have hmax := lt_of_mul_lt_mul_right hupper hlast.le
  rw [le_div_iff₀ hdq] at hmin
  rw [div_lt_iff₀ hdq] at hmax
  exact ⟨by exact_mod_cast hmin, by exact_mod_cast hmax⟩

/-- Whether a decimal has that many digits. -/
def HasCount (count : Nat) (decimal : Decimal) : Prop :=
  10 ^ (count - 1) ≤ decimal.digits ∧ decimal.digits < 10 ^ count

/-- The digits of a quotient make a decimal of that count, a carry included, which stands for them
at their place. -/
theorem ofDigits_spec (hcount : 0 < count) {digits : Nat} (hlower : 10 ^ (count - 1) ≤ digits)
    (hupper : digits ≤ 10 ^ count) :
    HasCount count (ofDigits num den count digits) ∧
      ((ofDigits num den count digits).digits : ℚ) *
          10 ^ ((ofDigits num den count digits).exponent - (count - 1)) =
        digits * 10 ^ (leadingExponent num den - (count - 1)) ∧
      (ofDigits num den count digits).exponent ≤ leadingExponent num den + 1 := by
  obtain ⟨k, rfl⟩ : ∃ k, count = k + 1 := ⟨count - 1, by omega⟩
  have hten : 10 ^ (k + 1) = 10 * 10 ^ k := by ring
  have hkpos : 0 < 10 ^ k := Nat.pow_pos (by decide)
  unfold ofDigits HasCount
  split
  · rename_i hcarry
    have hdigits : digits = 10 * 10 ^ k := hcarry.trans hten
    have hquotient : digits / 10 = 10 ^ k := by omega
    dsimp only
    rw [hquotient, hdigits, Nat.add_sub_cancel]
    refine ⟨⟨Nat.le_refl _, by omega⟩, ?_, Int.le_refl _⟩
    have hmoved : leadingExponent num den + 1 - ((k + 1 : Nat) - 1 : Int) =
        1 + (leadingExponent num den - ((k + 1 : Nat) - 1 : Int)) := by omega
    rw [hmoved, zpow_add₀ (by norm_num), zpow_one]
    push_cast
    ring
  · rename_i hfew
    exact ⟨⟨hlower, Nat.lt_of_le_of_ne hupper hfew⟩, rfl, by dsimp only; omega⟩

/-- A fraction that is rounded to some digits has as many. -/
theorem hasCount_rounded (hnum : 0 < num) (hden : 0 < den) (hcount : 0 < count) :
    HasCount count (rounded num den count) := by
  obtain ⟨hbelow, habove⟩ := scaled_bounds hnum hden hcount
  obtain ⟨hd, -⟩ := @scaled_eq num den count hden
  unfold rounded
  generalize scaled num den count = quotient at *
  exact (ofDigits_spec hcount (Binary64.le_roundDiv hd hbelow)
    (Binary64.roundDiv_le_of_le_mul hd habove.le)).1

/-! ## Reading back -/

/-- The first digit of a binary64 number counts at most `10 ^ 308`. -/
theorem leadingExponent_le {units : Nat} (hunits : Binary64.Representable units)
    (hpos : 0 < units) : leadingExponent units Binary64.unitsPerOne ≤ 308 := by
  obtain ⟨hlower, -⟩ := leadingExponent_bounds hpos Binary64.unitsPerOne_pos
  have hsmall : units < 10 ^ 309 * Binary64.unitsPerOne :=
    Nat.lt_of_lt_of_le hunits.1 (by decide +kernel)
  have hunitsq : (0 : ℚ) < Binary64.unitsPerOne := by exact_mod_cast Binary64.unitsPerOne_pos
  have hupper : (units : ℚ) / Binary64.unitsPerOne < 10 ^ (309 : Int) := by
    rw [div_lt_iff₀ hunitsq]
    exact_mod_cast hsmall
  have := (zpow_lt_zpow_iff_right₀ (by norm_num : (1 : ℚ) < 10)).1 (hlower.trans_lt hupper)
  omega

/-- Seventeen digits read back. -/
theorem value_rounded {units : Nat} (hunits : Binary64.Representable units) (hpos : 0 < units) :
    value 17 (rounded units Binary64.unitsPerOne 17) = .finite false units hunits := by
  have hone := Binary64.unitsPerOne_pos
  obtain ⟨hbelow, habove⟩ := @scaled_bounds _ _ 17 hpos hone (by decide)
  obtain ⟨hd, heq⟩ := @scaled_eq units Binary64.unitsPerOne 17 hone
  have hlead := leadingExponent_le hunits hpos
  unfold rounded
  generalize scaled units Binary64.unitsPerOne 17 = quotient at *
  obtain ⟨n, d⟩ := quotient
  dsimp only at *
  have hn : 0 < n := by omega
  obtain ⟨hmin, hmax⟩ := Binary64.roundDiv_bounds n d hd
  have hdigits : 10 ^ 16 ≤ Binary64.roundDiv n d := Binary64.le_roundDiv hd hbelow
  have hdigits' : Binary64.roundDiv n d ≤ 10 ^ 17 := Binary64.roundDiv_le_of_le_mul hd habove.le
  generalize Binary64.roundDiv n d = digits at *
  obtain ⟨-, hvalue, hexponent⟩ :=
    @ofDigits_spec units Binary64.unitsPerOne 17 (by decide) digits hdigits hdigits'
  generalize ofDigits units Binary64.unitsPerOne 17 digits = decimal at *
  -- The decimal is the number times the rounded quotient over the quotient.
  have hratio : (decimal.digits : ℚ) * 10 ^ (decimal.exponent - ((17 : Nat) - 1 : Int)) =
      (digits * units * d : Nat) / (Binary64.unitsPerOne * n : Nat) := by
    have hdq : (d : ℚ) ≠ 0 := Nat.cast_ne_zero.2 hd.ne'
    have hnq : (n : ℚ) ≠ 0 := Nat.cast_ne_zero.2 hn.ne'
    have honeq : (Binary64.unitsPerOne : ℚ) ≠ 0 := Nat.cast_ne_zero.2 hone.ne'
    rw [hvalue]
    generalize (10 : ℚ) ^ (leadingExponent units Binary64.unitsPerOne - ((17 : Nat) - 1 : Int)) =
      power at heq ⊢
    rw [div_mul_eq_mul_div, div_eq_div_iff hdq honeq] at heq
    rw [Nat.cast_mul, Nat.cast_mul, Nat.cast_mul, eq_div_iff (mul_ne_zero honeq hnq)]
    linear_combination (digits : ℚ) * heq
  have hread := Binary64.ofDecimal_eq_ofRatio_of_eq false (by omega)
    (Nat.mul_pos hone hn) hratio
  have hunitsRead : Binary64.roundToUnits (digits * units * d) (Binary64.unitsPerOne * n) =
      units := by
    have hlower : 2 * 10 ^ 16 * n ≤ 2 * 10 ^ 16 * (digits * d) + n := by omega
    have hupper : 2 * 10 ^ 16 * (digits * d) ≤ 2 * 10 ^ 16 * n + n := by omega
    refine Binary64.roundToUnits_of_near (Nat.mul_pos hone hn) hpos hunits.2 ?_ ?_
    · calc 2 * 10 ^ 16 * (units * (Binary64.unitsPerOne * n))
          = units * Binary64.unitsPerOne * (2 * 10 ^ 16 * n) := by ring
        _ ≤ units * Binary64.unitsPerOne * (2 * 10 ^ 16 * (digits * d) + n) :=
          Nat.mul_le_mul_left _ hlower
        _ = 2 * 10 ^ 16 * (digits * units * d * Binary64.unitsPerOne) +
            units * (Binary64.unitsPerOne * n) := by ring
    · calc 2 * 10 ^ 16 * (digits * units * d * Binary64.unitsPerOne)
          = units * Binary64.unitsPerOne * (2 * 10 ^ 16 * (digits * d)) := by ring
        _ ≤ units * Binary64.unitsPerOne * (2 * 10 ^ 16 * n + n) := Nat.mul_le_mul_left _ hupper
        _ = 2 * 10 ^ 16 * (units * (Binary64.unitsPerOne * n)) +
            units * (Binary64.unitsPerOne * n) := by ring
  rw [value, hread, Binary64.ofRatio, dif_pos (hunitsRead.symm ▸ hunits.1)]
  simp only [hunitsRead]

/-- A decimal that reads as the given units is that number. -/
theorem eq_of_readsBack {units count : Nat} {decimal : Decimal}
    (hunits : Binary64.Representable units) (h : readsBack units count decimal = true) :
    value count decimal = .finite false units hunits := by
  unfold readsBack at h
  split at h
  · rename_i negative read hread hvalue
    rcases Binary64.ofDecimal_cases decimal.digits (decimal.exponent - (count - 1)) with
      hinfinite | ⟨_, _, hfinite⟩
    · cases hvalue.symm.trans hinfinite
    · cases hvalue.symm.trans hfinite
      obtain rfl := eq_of_beq h
      exact hvalue
  · cases h

/-- A decimal that is found to read back has the digits that were asked for. -/
theorem readingBack?_spec {units count : Nat} {decimal : Decimal}
    (hunits : Binary64.Representable units) (hpos : 0 < units) (hcount : 0 < count)
    (h : readingBack? units count = some decimal) :
    HasCount count decimal ∧ value count decimal = .finite false units hunits := by
  obtain ⟨hbelow, habove⟩ := scaled_bounds hpos Binary64.unitsPerOne_pos hcount
  obtain ⟨hd, -⟩ := @scaled_eq units Binary64.unitsPerOne count Binary64.unitsPerOne_pos
  unfold readingBack? at h
  generalize scaled units Binary64.unitsPerOne count = quotient at *
  obtain ⟨n, d⟩ := quotient
  dsimp only at *
  have hfloor : 10 ^ (count - 1) ≤ n / d := (Nat.le_div_iff_mul_le hd).2 hbelow
  have hfloor' : n / d < 10 ^ count := (Nat.div_lt_iff_lt_mul hd).2 habove
  have hreads := List.find?_some h
  obtain ⟨digits, hdigits, rfl⟩ := List.mem_map.1 (List.mem_of_find?_eq_some h)
  have hrange : 10 ^ (count - 1) ≤ digits ∧ digits ≤ 10 ^ count := by
    simp only [List.mem_cons, List.not_mem_nil, or_false] at hdigits
    rcases hdigits with rfl | rfl | rfl
    · exact ⟨Binary64.le_roundDiv hd hbelow, Binary64.roundDiv_le_of_le_mul hd habove.le⟩
    · exact ⟨hfloor, hfloor'.le⟩
    · exact ⟨by omega, hfloor'⟩
  exact ⟨(ofDigits_spec hcount hrange.1 hrange.2).1, eq_of_readsBack hunits hreads⟩

/-- The shortest decimal of a positive number has as many digits as its place says, and reads
back. -/
theorem shortest_spec {units : Nat} (hunits : Binary64.Representable units) (hpos : 0 < units) :
    ∃ count, 0 < count ∧ HasCount count (shortest units) ∧
      value count (shortest units) = .finite false units hunits := by
  have hfrom : ∀ more count, 0 < count → count + more = 17 → ∃ found, 0 < found ∧
      HasCount found (shortestFrom units more count) ∧
      value found (shortestFrom units more count) = .finite false units hunits := by
    intro more
    induction more with
    | zero =>
      intro count hcount hmore
      obtain rfl : count = 17 := by omega
      exact ⟨17, hcount, hasCount_rounded hpos Binary64.unitsPerOne_pos hcount,
        value_rounded hunits hpos⟩
    | succ more ih =>
      intro count hcount hmore
      rw [shortestFrom]
      cases hfound : readingBack? units count with
      | some decimal => exact ⟨count, hcount, readingBack?_spec hunits hpos hcount hfound⟩
      | none => exact ih (count + 1) (by omega) (by omega)
  unfold shortest
  exact hfrom 16 1 (by decide) (by decide)

end Decimal

end TransformPreset
