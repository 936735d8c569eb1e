import TransformPreset.Proofs.Outcome

/-!
# Checks in a fixed order

A validation is a row of checks, of which the first one that does not pass decides the failure. A
check says when it passes and with which failure it refuses otherwise, without saying how it is
made. `Decides` relates a row of checks to a computation: it succeeds exactly if all checks pass,
and fails exactly with what the first check that does not pass refuses with. Rows grow with the
steps of a computation (`Decides.bind`).
-/

namespace TransformPreset

/-- A check: when it passes, and the failure with which it refuses. -/
structure Check where
  /-- What is asked. -/
  passes : Prop
  /-- Whether a failure is that of the check. -/
  refuses : Failure → Prop
  /-- What passes is not refused. -/
  not_passes : ∀ {failure}, refuses failure → ¬passes
  /-- There is one failure at most. -/
  unique : ∀ {failure other}, refuses failure → refuses other → other = failure

/-- Whether all checks of a row pass. -/
def AllPass (checks : List Check) : Prop :=
  ∀ check ∈ checks, check.passes

/-- Whether a failure is that of the first check of a row that does not pass. -/
def FirstRefuses (checks : List Check) (failure : Failure) : Prop :=
  ∃ before check after, checks = before ++ check :: after ∧ AllPass before ∧
    check.refuses failure

namespace Check

/-- The check that passes. -/
def always : Check where
  passes := True
  refuses _ := False
  not_passes := False.elim
  unique := False.elim

/-- The check that asks for something, and fails in one way without it. -/
def demand (passes : Prop) (failure : Failure) : Check where
  passes := passes
  refuses other := other = failure ∧ ¬passes
  not_passes h := h.2
  unique h h' := h'.1.trans h.1.symm

end Check

/-- Whether a row of checks decides if and how a computation fails. -/
structure Decides {α : Type} (checks : List Check) (x : Except Failure α) : Prop where
  /-- It succeeds exactly if all checks pass. -/
  ok_iff : (∃ a, x = .ok a) ↔ AllPass checks
  /-- It fails exactly as the first check that does not pass. -/
  error_iff : ∀ failure, x = .error failure ↔ FirstRefuses checks failure

variable {α β : Type} {check : Check} {checks rest : List Check} {failure other : Failure}

/-! ## Rows -/

/-- An empty row passes. -/
theorem allPass_nil : AllPass [] :=
  fun _ h => absurd h List.not_mem_nil

/-- A row passes if its first check and the others do. -/
theorem allPass_cons : AllPass (check :: rest) ↔ check.passes ∧ AllPass rest :=
  List.forall_mem_cons

/-- An empty row refuses nothing. -/
theorem not_firstRefuses_nil (failure : Failure) : ¬FirstRefuses [] failure := by
  rintro ⟨before, check, after, hrow, -, -⟩
  exact List.append_ne_nil_of_right_ne_nil before (List.cons_ne_nil check after) hrow.symm

/-- A row refuses as its first check does, or as the others do once that one has passed. -/
theorem firstRefuses_cons :
    FirstRefuses (check :: rest) failure ↔
      check.refuses failure ∨ check.passes ∧ FirstRefuses rest failure := by
  constructor
  · rintro ⟨before, found, after, hrow, hbefore, hrefuses⟩
    cases before with
    | nil =>
      obtain ⟨rfl, -⟩ := List.cons.inj hrow
      exact .inl hrefuses
    | cons first before =>
      obtain ⟨rfl, hrest⟩ := List.cons.inj hrow
      obtain ⟨hfirst, hothers⟩ := allPass_cons.1 hbefore
      exact .inr ⟨hfirst, before, found, after, hrest, hothers, hrefuses⟩
  · rintro (hrefuses | ⟨hpasses, before, found, after, rfl, hbefore, hrefuses⟩)
    · exact ⟨[], check, rest, rfl, allPass_nil, hrefuses⟩
    · exact ⟨check :: before, found, after, rfl, allPass_cons.2 ⟨hpasses, hbefore⟩, hrefuses⟩

/-- A row passes if both of its parts do. -/
theorem allPass_append : AllPass (checks ++ rest) ↔ AllPass checks ∧ AllPass rest :=
  List.forall_mem_append

/-- A row refuses as its first part does, or as the second once the first has passed. -/
theorem firstRefuses_append :
    FirstRefuses (checks ++ rest) failure ↔
      FirstRefuses checks failure ∨ AllPass checks ∧ FirstRefuses rest failure := by
  induction checks with
  | nil => simp [not_firstRefuses_nil, allPass_nil]
  | cons check others ih =>
    rw [List.cons_append, firstRefuses_cons, ih, firstRefuses_cons, allPass_cons, and_or_left,
      or_assoc, and_assoc]

/-- A row refuses with a failure of one of its checks. -/
theorem FirstRefuses.exists_mem (h : FirstRefuses checks failure) :
    ∃ check ∈ checks, check.refuses failure := by
  obtain ⟨before, check, after, rfl, -, hrefuses⟩ := h
  exact ⟨check, List.mem_append_right _ List.mem_cons_self, hrefuses⟩

/-- A row that refuses does not pass. -/
theorem FirstRefuses.not_allPass (h : FirstRefuses checks failure) : ¬AllPass checks := by
  obtain ⟨check, hcheck, hrefuses⟩ := h.exists_mem
  exact fun hall => check.not_passes hrefuses (hall check hcheck)

/-- A row refuses with one failure at most. -/
theorem FirstRefuses.unique (h : FirstRefuses checks failure) (h' : FirstRefuses checks other) :
    other = failure := by
  induction checks with
  | nil => exact absurd h (not_firstRefuses_nil failure)
  | cons check rest ih =>
    rcases firstRefuses_cons.1 h with h | ⟨hpasses, h⟩
    · rcases firstRefuses_cons.1 h' with h' | ⟨hpasses, -⟩
      · exact check.unique h h'
      · exact absurd hpasses (check.not_passes h)
    · rcases firstRefuses_cons.1 h' with h' | ⟨-, h'⟩
      · exact absurd hpasses (check.not_passes h')
      · exact ih h h'

/-- A row as one check. -/
def Check.ofRow (checks : List Check) : Check where
  passes := AllPass checks
  refuses := FirstRefuses checks
  not_passes := FirstRefuses.not_allPass
  unique := FirstRefuses.unique

/-! ## Decisions -/

/-- A row that passes decides a success. -/
theorem decides_ok (h : AllPass checks) (a : α) : Decides checks (.ok a) where
  ok_iff := iff_of_true ⟨a, rfl⟩ h
  error_iff _ := iff_of_false nofun fun hrefuses => hrefuses.not_allPass h

/-- A row that refuses decides a failure. -/
theorem decides_error (h : FirstRefuses checks failure) :
    Decides checks (.error failure : Except Failure α) where
  ok_iff := iff_of_false nofun h.not_allPass
  error_iff other := by
    rw [Except.error.injEq]
    exact ⟨fun heq => heq ▸ h, fun h' => (h.unique h').symm⟩

/-- A check that passes decides a success. -/
theorem Check.decides_ok (h : check.passes) (a : α) : Decides [check] (.ok a) :=
  TransformPreset.decides_ok (allPass_cons.2 ⟨h, allPass_nil⟩) a

/-- A check that refuses decides a failure. -/
theorem Check.decides_error (h : check.refuses failure) :
    Decides [check] (.error failure : Except Failure α) :=
  TransformPreset.decides_error (firstRefuses_cons.2 (.inl h))

/-- What is not checked succeeds. -/
theorem Check.decides_always (a : α) : Decides [Check.always] (.ok a) :=
  Check.decides_ok trivial a

/-- What is asked for and there is a success. -/
theorem Check.demand_ok {passes : Prop} (h : passes) (failure : Failure) (a : α) :
    Decides [Check.demand passes failure] (.ok a) :=
  Check.decides_ok h a

/-- What is asked for and not there is the failure. -/
theorem Check.demand_error {passes : Prop} (h : ¬passes) (failure : Failure) :
    Decides [Check.demand passes failure] (.error failure : Except Failure α) :=
  Check.decides_error ⟨rfl, h⟩

/-- A step behind another is decided by the row of that step and then by its own. -/
theorem Decides.bind {x : Except Failure α} {f : α → Except Failure β} (hx : Decides checks x)
    (hf : ∀ a, x = .ok a → Decides rest (f a)) : Decides (checks ++ rest) (x >>= f) := by
  cases x with
  | error failure =>
    exact TransformPreset.decides_error
      (firstRefuses_append.2 (.inl ((hx.error_iff failure).1 rfl)))
  | ok a =>
    have hpass : AllPass checks := hx.ok_iff.1 ⟨a, rfl⟩
    have hrest : Decides rest (f a) := hf a rfl
    show Decides (checks ++ rest) (f a)
    cases hresult : f a with
    | ok b => exact decides_ok (allPass_append.2 ⟨hpass, hrest.ok_iff.1 ⟨b, hresult⟩⟩) b
    | error failure =>
      refine TransformPreset.decides_error (firstRefuses_append.2 (.inr ⟨hpass, ?_⟩))
      exact (hrest.error_iff failure).1 hresult

/-- What a row decides is decided behind a check that passes. -/
theorem Decides.behind {x : Except Failure α} (hx : Decides rest x) (h : check.passes) :
    Decides (check :: rest) x :=
  (Check.decides_ok h ()).bind fun _ _ => hx

/-- What a row decides is decided by the row as one check. -/
theorem Decides.ofRow {x : Except Failure α} (hx : Decides checks x) :
    Decides [Check.ofRow checks] x := by
  cases x with
  | ok a => exact Check.decides_ok (hx.ok_iff.1 ⟨a, rfl⟩) a
  | error failure => exact Check.decides_error ((hx.error_iff failure).1 rfl)

/-- What is made of an answer changes nothing about the checks. -/
theorem Decides.map {x : Except Failure α} (hx : Decides checks x) (f : α → β) :
    Decides checks (x.map f) := by
  cases x with
  | ok a => exact decides_ok (hx.ok_iff.1 ⟨a, rfl⟩) _
  | error failure => exact decides_error ((hx.error_iff failure).1 rfl)

/-- What is expected of the refusals of all checks is expected of every failure. -/
theorem Decides.failsWith {expected : Failure → Prop} {x : Except Failure α} (hx : Decides checks x)
    (h : ∀ check ∈ checks, ∀ failure, check.refuses failure → expected failure) :
    FailsWith expected x := by
  intro failure hfailure
  obtain ⟨check, hcheck, hrefuses⟩ := ((hx.error_iff failure).1 hfailure).exists_mem
  exact h check hcheck failure hrefuses

end TransformPreset
