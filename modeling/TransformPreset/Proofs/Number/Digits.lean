import Mathlib.Tactic.Ring
import TransformPreset.Number.Digits
import TransformPreset.Number.Literal

/-!
# Decimals that are written out

The digits of a natural number are plain digits, and they write that number
(`digitsValue_natDigits`). A greater number has no fewer of them (`length_natDigits_mono`).
-/

namespace TransformPreset

/-! ## Plain digits -/

/-- A plain digit is a digit, with the value that its code point gives it. -/
theorem digitValue?_of_isDigit {c : Char} (h : c.isDigit = true) :
    digitValue? c = some (c.toNat - '0'.toNat) := by
  obtain ⟨hlow, hhigh⟩ := Char.isDigit_iff_toNat.1 h
  have hzero : '0'.toNat = 0x30 := rfl
  have hnine : '9'.toNat = 0x39 := rfl
  have hplain : isPlain c = true := decide_eq_true (by omega)
  have hrange : (decide (0x30 ≤ c.toNat) && decide (c.toNat ≤ 0x39)) = true := by
    simp
    omega
  rw [digitValue?, hplain, if_pos rfl, hrange, if_pos rfl]
  rfl

theorem isDigit_of_plain {c : Char} (h : c.isDigit = true) : isDigit c = true := by
  rw [isDigit, digitValue?_of_isDigit h]
  rfl

/-- A plain digit is no other character. -/
theorem ne_of_isDigit {d c : Char} (hd : d.isDigit = true) (hc : c.isDigit = false) : d ≠ c := by
  rintro rfl
  rw [hd] at hc
  cases hc

/-- The digits of a natural number are plain. -/
theorem isDigit_of_mem_natDigits {n : Nat} : ∀ c ∈ natDigits n, c.isDigit = true :=
  fun _ h => Nat.isDigit_of_mem_toDigits (by decide) (by decide) h

theorem natDigits_ne_nil (n : Nat) : natDigits n ≠ [] :=
  Nat.toDigits_ne_nil

/-- The value of digits that go on from a number. -/
theorem foldl_digits (digits : List Char) (start : Nat) :
    digits.foldl (fun n c => 10 * n + (digitValue? c).getD 0) start =
      start * 10 ^ digits.length + digitsValue digits := by
  unfold digitsValue
  induction digits generalizing start with
  | nil => simp
  | cons c rest ih =>
    rw [List.foldl_cons, List.foldl_cons, ih, ih (10 * 0 + _), List.length_cons, Nat.pow_succ]
    ring

/-- Digits after others count as many places. -/
theorem digitsValue_append (upper lower : List Char) :
    digitsValue (upper ++ lower) = digitsValue upper * 10 ^ lower.length + digitsValue lower := by
  rw [digitsValue, List.foldl_append, foldl_digits lower]
  rfl

/-- As many digits write less than that power of ten. -/
theorem digitsValue_lt (digits : List Char) : digitsValue digits < 10 ^ digits.length := by
  induction digits with
  | nil => exact Nat.zero_lt_one
  | cons c rest ih =>
    have hdigit : (digitValue? c).getD 0 < 10 := by
      cases hvalue : digitValue? c with
      | none => exact Nat.zero_lt_succ 9
      | some d => exact digitValue?_lt hvalue
    have hrest : (digitValue? c).getD 0 * 10 ^ rest.length ≤ 9 * 10 ^ rest.length :=
      Nat.mul_le_mul_right _ (Nat.le_of_lt_succ hdigit)
    rw [digitsValue, List.foldl_cons, Nat.mul_zero, Nat.zero_add, foldl_digits, List.length_cons,
      Nat.pow_succ]
    omega

/-- At most so many digits write less than that power of ten. -/
theorem digitsValue_lt_of_length {digits : List Char} {most : Nat} (h : digits.length ≤ most) :
    digitsValue digits < Nat.pow 10 most :=
  Nat.lt_of_lt_of_le (digitsValue_lt digits) (Nat.pow_le_pow_right (Nat.zero_lt_succ 9) h)

/-- The digits of a natural number write it. -/
theorem digitsValue_natDigits (n : Nat) : digitsValue (natDigits n) = n := by
  have hfold : ∀ (digits : List Char) (start : Nat), (∀ c ∈ digits, c.isDigit = true) →
      digits.foldl (fun n c => 10 * n + (digitValue? c).getD 0) start =
        Nat.ofDigitChars 10 digits start := by
    intro digits
    induction digits with
    | nil => exact fun _ _ => rfl
    | cons c rest ih =>
      intro start h
      obtain ⟨hc, hrest⟩ := List.forall_mem_cons.1 h
      rw [List.foldl_cons, digitValue?_of_isDigit hc, ih _ hrest]
      rfl
  rw [digitsValue, hfold _ 0 isDigit_of_mem_natDigits]
  exact Nat.ofDigitChars_ten_toDigits

/-- A number with as many digits is less than that power of ten. -/
theorem lt_pow_length_natDigits (n : Nat) : n < 10 ^ (natDigits n).length :=
  (Nat.length_toDigits_le_iff (by decide) Nat.length_toDigits_pos).1 (Nat.le_refl _)

/-- A greater number has no fewer digits. -/
theorem length_natDigits_mono {m n : Nat} (h : m ≤ n) :
    (natDigits m).length ≤ (natDigits n).length :=
  (Nat.length_toDigits_le_iff (by decide) Nat.length_toDigits_pos).2
    (Nat.lt_of_le_of_lt h (lt_pow_length_natDigits n))

end TransformPreset
