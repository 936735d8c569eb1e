import TransformPreset.Number.Binary64

/-!
# Numbers and their order

A version is an integer of any size or a binary64 number. The two kinds are compared exactly, as
points of the extended line counted in units of `2^-1074`, so an integer is never rounded first.
Not-a-number has no place there and is below nothing. `Number.lt_irrefl`, `Number.lt_trans` and
`Number.lt_iff` are what selection rests on.
-/

namespace TransformPreset

/-- A point of the extended number line, in units of `2^-1074`. -/
inductive Place
  /-- Below every number. -/
  | bottom
  /-- A finite number. -/
  | point (units : Int)
  /-- Above every number. -/
  | top
deriving DecidableEq

namespace Place

/-- Whether the first place is left of the second. -/
def lt : Place → Place → Bool
  | .bottom, .bottom => false
  | .bottom, _ => true
  | .point _, .bottom => false
  | .point a, .point b => a < b
  | .point _, .top => true
  | .top, _ => false

theorem lt_trans {p q r : Place} (hpq : p.lt q = true) (hqr : q.lt r = true) : p.lt r = true := by
  cases p <;> cases q <;> cases r <;> simp_all [lt]
  omega

/-- What is not left of a place is left of nothing that the place is not left of. -/
theorem not_lt_trans {p q r : Place} (hpq : p.lt q = false) (hqr : q.lt r = false) :
    p.lt r = false := by
  cases p <;> cases q <;> cases r <;> simp_all [lt]
  omega

end Place

/-- The place of a binary64 number; not-a-number has none. -/
def Binary64.place? : Binary64 → Option Place
  | .nan => none
  | .infinite negative => some (if negative then .bottom else .top)
  | .finite negative units _ => some (.point (signedUnits negative units))

/-- An integer or a binary64 number. -/
inductive Number
  /-- An integer. -/
  | int (n : Int)
  /-- A binary64 number. -/
  | float (x : Binary64)
deriving DecidableEq

namespace Number

/-- The place of a number; not-a-number has none. -/
def place? : Number → Option Place
  | .int n => some (.point (n * Binary64.unitsPerOne))
  | .float x => x.place?

/-- Whether the first number is less than the second. -/
def lt (a b : Number) : Bool :=
  match a.place?, b.place? with
  | some p, some q => p.lt q
  | _, _ => false

theorem lt_iff {a b : Number} :
    a.lt b = true ↔ ∃ p q, a.place? = some p ∧ b.place? = some q ∧ p.lt q = true := by
  cases ha : a.place? <;> cases hb : b.place? <;> simp [lt, ha, hb]

theorem lt_trans {a b c : Number} (hab : a.lt b = true) (hbc : b.lt c = true) : a.lt c = true := by
  obtain ⟨p, q, hp, hq, hpq⟩ := lt_iff.1 hab
  obtain ⟨q', r, hq', hr, hqr⟩ := lt_iff.1 hbc
  rw [hq] at hq'
  obtain rfl := Option.some.inj hq'
  exact lt_iff.2 ⟨p, r, hp, hr, Place.lt_trans hpq hqr⟩

theorem int_lt_int (m n : Int) : (Number.int m).lt (.int n) = decide (m < n) := by
  have h : (0 : Int) < Binary64.unitsPerOne := Int.natCast_pos.2 Binary64.unitsPerOne_pos
  show decide (m * (Binary64.unitsPerOne : Int) < n * (Binary64.unitsPerOne : Int)) = decide (m < n)
  exact decide_eq_decide.2 (Int.mul_lt_mul_right h)

/-- Numbers with the same place are less than the same numbers. -/
theorem lt_congr {a b : Number} (h : a.place? = b.place?) (c : Number) : a.lt c = b.lt c := by
  rw [lt, lt, h]

/-- An integer of at most 53 significant bits has the place of its nearest binary64 number. -/
theorem place?_ofInt? {n : Int} (h : n.natAbs ≤ Nat.pow 2 53) :
    ∃ x, Binary64.ofInt? n = some x ∧ (float x).place? = (int n).place? := by
  obtain ⟨hunits, hx⟩ := Binary64.exists_ofInt? h
  refine ⟨_, hx, ?_⟩
  exact congrArg (fun units => some (Place.point units)) (Binary64.signedUnits_natAbs n _)

end Number

end TransformPreset
