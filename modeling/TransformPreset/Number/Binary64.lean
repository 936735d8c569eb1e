/-!
# Binary64 numbers

Double-precision numbers in a form that proofs can compute with. Every finite one is a whole
multiple of `2^-1074`, its unit, so a sign and a count of units describe it exactly; the count has
at most 53 significant bits (`Representable`). `ofRatio` rounds a fraction to the nearest number, a
tie to the even neighbour, and `ofDecimal` a decimal. `representable_roundToUnits` shows that what
rounding yields is representable, `roundDiv_bounds` that it is off by half a step at most, and
`exists_ofInt?` that an integer of at most 53 significant bits is not rounded at all.
-/

namespace TransformPreset

namespace Binary64

/-- How many units make one. -/
def unitsPerOne : Nat := Nat.pow 2 1074

theorem unitsPerOne_pos : 0 < unitsPerOne := by
  decide +kernel

/-- The least count of units that is too large for a finite number. -/
def overflow : Nat := Nat.pow 2 2098

/-- The counts of units that a finite number has: at most 53 significant bits, below overflow. -/
def Representable (units : Nat) : Prop :=
  units < overflow ∧ Nat.pow 2 (units.log2 - 52) ∣ units

instance (units : Nat) : Decidable (Representable units) :=
  inferInstanceAs (Decidable (_ ∧ _))

theorem representable_zero : Representable 0 :=
  ⟨by decide +kernel, Nat.dvd_zero _⟩

/-- The whole number nearest to `num / den`; a tie goes to the even one. -/
def roundDiv (num den : Nat) : Nat :=
  if 2 * (num % den) < den ∨ (2 * (num % den) = den ∧ num / den % 2 = 0) then num / den
  else num / den + 1

/-- Rounding is off by at most one half. -/
theorem roundDiv_bounds (num den : Nat) (h : 0 < den) :
    2 * (roundDiv num den * den) ≤ 2 * num + den ∧
      2 * num ≤ 2 * (roundDiv num den * den) + den := by
  have hdm := Nat.div_add_mod num den
  have hlt := Nat.mod_lt num h
  have hmul : den * (num / den) = num / den * den := Nat.mul_comm _ _
  unfold roundDiv
  split
  · constructor <;> omega
  · rw [Nat.add_mul]
    constructor <;> omega

/-- A whole quotient is its own rounding. -/
theorem roundDiv_mul (n den : Nat) (h : 0 < den) : roundDiv (n * den) den = n := by
  simp [roundDiv, Nat.mul_mod_left, Nat.mul_div_cancel _ h, h]

theorem roundDiv_le {num den bound : Nat} (h : num / den < bound) : roundDiv num den ≤ bound := by
  unfold roundDiv
  split <;> omega

/-- The distance, in units, between the numbers near `num / den`: a power of two that leaves 53
significant bits. -/
def stepNear (num den : Nat) : Nat :=
  Nat.pow 2 ((num * unitsPerOne / den).log2 - 52)

/-- The units of the number nearest to `num / den`, with no bound on them. -/
def roundToUnits (num den : Nat) : Nat :=
  roundDiv (num * unitsPerOne) (den * stepNear num den) * stepNear num den

theorem dvd_of_significand {m s : Nat} (h : m ≤ Nat.pow 2 53) :
    Nat.pow 2 ((m * Nat.pow 2 s).log2 - 52) ∣ m * Nat.pow 2 s := by
  simp only [Nat.pow_eq] at h ⊢
  by_cases hm : m = 2 ^ 53
  · subst hm
    rw [← Nat.pow_add, Nat.log2_two_pow]
    exact Nat.pow_dvd_pow 2 (by omega)
  -- A significand below the bound leaves the product below a power of two.
  · by_cases h0 : m * 2 ^ s = 0
    · rw [h0]
      exact Nat.dvd_zero _
    · have hlt : m * 2 ^ s < 2 ^ (53 + s) := by
        rw [Nat.pow_add]
        exact Nat.mul_lt_mul_of_pos_right (by omega) (Nat.two_pow_pos s)
      have hlog := (Nat.log2_lt h0).2 hlt
      exact Nat.dvd_trans (Nat.pow_dvd_pow 2 (by omega)) (Nat.dvd_mul_left _ _)

theorem representable_roundToUnits (num den : Nat) (h : roundToUnits num den < overflow) :
    Representable (roundToUnits num den) := by
  refine ⟨h, ?_⟩
  unfold roundToUnits stepNear
  apply dvd_of_significand
  apply roundDiv_le
  rw [← Nat.div_div_eq_div_mul]
  have hlt := Nat.lt_log2_self (n := num * unitsPerOne / den)
  apply Nat.div_lt_of_lt_mul
  simp only [Nat.pow_eq]
  rw [← Nat.pow_add]
  exact Nat.lt_of_lt_of_le hlt (Nat.pow_le_pow_right (by decide) (by omega))

end Binary64

/-- A double-precision number. -/
inductive Binary64
  /-- Not a number. -/
  | nan
  /-- An infinity. -/
  | infinite (negative : Bool)
  /-- A finite number, as its sign and its magnitude in units; zero has both signs. -/
  | finite (negative : Bool) (units : Nat) (representable : Binary64.Representable units)
deriving DecidableEq

namespace Binary64

/-- Zero with the given sign. -/
def zero (negative : Bool) : Binary64 :=
  .finite negative 0 representable_zero

/-- The number nearest to `num / den`; a fraction that rounds to no finite number is infinite. -/
def ofRatio (negative : Bool) (num den : Nat) : Binary64 :=
  if h : roundToUnits num den < overflow then
    .finite negative (roundToUnits num den) (representable_roundToUnits num den h)
  else .infinite negative

/-- The number nearest to `digits * 10 ^ exponent`. A decimal far outside the range of the finite
numbers is answered without computing its power of ten. -/
def ofDecimal (negative : Bool) (digits : Nat) (exponent : Int) : Binary64 :=
  if digits = 0 then zero negative
  -- Any digit at such a place is more than the largest finite number.
  else if 400 < exponent then .infinite negative
  -- So small a decimal is nearer to zero than to the least positive number.
  else if exponent + digits.log2 + 401 < 0 then zero negative
  else if 0 ≤ exponent then ofRatio negative (digits * Nat.pow 10 exponent.toNat) 1
  else ofRatio negative digits (Nat.pow 10 (-exponent).toNat)

/-- A number, unless it is infinite. -/
def bounded? : Binary64 → Option Binary64
  | .infinite _ => none
  | x => some x

/-- The number nearest to an integer, or none if that is out of the finite range. -/
def ofInt? (n : Int) : Option Binary64 :=
  (ofRatio (n < 0) n.natAbs 1).bounded?

/-- The integer that a finite number is, counted in units. -/
def signedUnits (negative : Bool) (units : Nat) : Int :=
  if negative then -units else units

/-- The magnitude of an integer, under its sign, counts its units. -/
theorem signedUnits_natAbs (n : Int) (units : Nat) :
    signedUnits (n < 0) (n.natAbs * units) = n * units := by
  unfold signedUnits
  by_cases hn : n < 0
  · have habs : -(n.natAbs : Int) = n := by omega
    rw [if_pos (decide_eq_true hn), Int.natCast_mul, ← Int.neg_mul, habs]
  · have habs : (n.natAbs : Int) = n := by omega
    rw [if_neg (by simpa using hn), Int.natCast_mul, habs]

/-! ## Integers that are not rounded -/

/-- A whole number of at most 53 significant bits is not rounded. -/
theorem roundToUnits_of_le {m : Nat} (h : m ≤ Nat.pow 2 53) :
    roundToUnits m 1 = m * unitsPerOne := by
  have hpos : 0 < stepNear m 1 := by
    unfold stepNear
    exact Nat.pow_pos (by decide)
  have hdvd : stepNear m 1 ∣ m * unitsPerOne := by
    obtain ⟨s, hs⟩ : ∃ s, unitsPerOne = Nat.pow 2 s := by
      unfold unitsPerOne
      exact ⟨_, rfl⟩
    rw [stepNear, Nat.div_one, hs]
    exact dvd_of_significand h
  obtain ⟨k, hk⟩ := hdvd
  calc roundToUnits m 1
      = roundDiv (k * stepNear m 1) (stepNear m 1) * stepNear m 1 := by
        rw [roundToUnits, Nat.one_mul, hk, Nat.mul_comm k]
    _ = k * stepNear m 1 := by rw [roundDiv_mul k _ hpos]
    _ = m * unitsPerOne := by rw [hk, Nat.mul_comm]

/-- An integer of at most 53 significant bits is its own nearest number. -/
theorem exists_ofInt? {n : Int} (h : n.natAbs ≤ Nat.pow 2 53) :
    ∃ hunits : Representable (n.natAbs * unitsPerOne),
      ofInt? n = some (.finite (n < 0) (n.natAbs * unitsPerOne) hunits) := by
  have hrounds := roundToUnits_of_le h
  have hfinite : roundToUnits n.natAbs 1 < overflow := by
    rw [hrounds]
    calc n.natAbs * unitsPerOne ≤ Nat.pow 2 53 * unitsPerOne := Nat.mul_le_mul_right _ h
      _ < overflow := by decide +kernel
  have hunits := representable_roundToUnits n.natAbs 1 hfinite
  have hratio : ofRatio (n < 0) n.natAbs 1 =
      .finite (n < 0) (roundToUnits n.natAbs 1) hunits := by
    unfold ofRatio
    exact dif_pos hfinite
  rw [ofInt?, hratio]
  clear hratio
  revert hunits
  rw [hrounds]
  exact fun hunits => ⟨hunits, rfl⟩

end Binary64

end TransformPreset
