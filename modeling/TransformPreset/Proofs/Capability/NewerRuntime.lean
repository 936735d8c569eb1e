import TransformPreset.Proofs.Capability.Agreement
import TransformPreset.Proofs.Number.FloatText
import TransformPreset.Proofs.Number.Rounding

/-!
# Newer runtimes

A runtime that prints `vA.B.C` has the version that `A.B` writes as a decimal
(`runtimeVersion_of_versionText`). The decimals are in the order of the releases as long as the
minor numbers have as many digits (`decimalVersion_mono`); `6.10` is a later release than `6.9`, and
a lesser decimal. A newer runtime needs no more than an older one but for that
(`isRequired_newerRuntime`): a capability is needed for the newer one alone exactly if its version
lies between the two decimals, and then the newer one has the longer minor number.
-/

namespace TransformPreset

variable {major minor patch : Nat}

/-! ## The version that is printed -/

/-- The text `vA.B.C` of a version. -/
def versionText (major minor patch : Nat) : List Char :=
  'v' :: (natDigits major ++ '.' :: (natDigits minor ++ '.' :: natDigits patch))

/-- The number that `A.B` writes as a decimal. -/
def decimalVersion (major minor : Nat) : Binary64 :=
  .ofDecimal false (major * 10 ^ (natDigits minor).length + minor) (-(natDigits minor).length)

/-- The version of a runtime is the decimal of its major and minor number. -/
theorem runtimeVersion_of_versionText {text : String}
    (h : trim text.toList = versionText major minor patch) :
    (runtimeVersion (.printed text)).result = .ok (decimalVersion major minor) := by
  obtain ⟨d, more, hmajor⟩ := List.exists_cons_of_ne_nil (natDigits_ne_nil major)
  have hletter : (versionText major minor patch).dropWhile (· == 'v') =
      natDigits major ++ '.' :: (natDigits minor ++ '.' :: natDigits patch) := by
    have hd : d.isDigit = true :=
      isDigit_of_mem_natDigits d (hmajor ▸ List.mem_cons_self)
    have hne : ¬(d == 'v') = true := by
      rw [beq_iff_eq]
      rintro rfl
      exact absurd hd (by decide)
    rw [versionText, List.dropWhile_cons_of_pos rfl, hmajor, List.cons_append]
    exact List.dropWhile_cons_of_neg hne
  have hnumber : leadingFloat
      (natDigits major ++ '.' :: (natDigits minor ++ '.' :: natDigits patch)) =
        .ok (some (decimalVersion major minor)) := by
    rw [leadingFloat, leadingFloat?_of_digits isDigit_of_mem_natDigits isDigit_of_mem_natDigits
      (natDigits_ne_nil major)]
    dsimp only
    rw [readFloat?_of_digits isDigit_of_mem_natDigits isDigit_of_mem_natDigits
      (natDigits_ne_nil major), digitsValue_append, digitsValue_natDigits, digitsValue_natDigits]
    rfl
  unfold runtimeVersion
  dsimp only
  rw [h, hletter, hnumber]
  rfl

/-! ## The order of versions -/

/-- The decimals of versions are in the order of the versions, unless the later one differs in the
minor number only, and has more digits there. -/
theorem decimalVersion_mono {major' minor' : Nat}
    (hle : major < major' ∨ (major = major' ∧ minor ≤ minor'))
    (hdigits : major = major' → (natDigits minor').length ≤ (natDigits minor).length) :
    (Number.float (decimalVersion major' minor')).lt (.float (decimalVersion major minor)) =
      false := by
  rw [decimalVersion, decimalVersion, Binary64.ofDecimal_eq_ofRatio, Binary64.ofDecimal_eq_ofRatio]
  refine Number.lt_ofRatio (Nat.pow_pos (by decide)) (Nat.pow_pos (by decide)) ?_
  have hminor := lt_pow_length_natDigits minor
  rcases hle with hmajor | ⟨rfl, hminors⟩
  · -- A greater major number is more than any fraction of one.
    calc (major * 10 ^ (natDigits minor).length + minor) * 10 ^ (natDigits minor').length
        ≤ ((major + 1) * 10 ^ (natDigits minor).length) * 10 ^ (natDigits minor').length := by
          refine Nat.mul_le_mul_right _ ?_
          rw [Nat.add_mul, Nat.one_mul]
          omega
      _ ≤ (major' * 10 ^ (natDigits minor).length) * 10 ^ (natDigits minor').length :=
          Nat.mul_le_mul_right _ (Nat.mul_le_mul_right _ hmajor)
      _ = (major' * 10 ^ (natDigits minor').length) * 10 ^ (natDigits minor).length := by ring
      _ ≤ (major' * 10 ^ (natDigits minor').length + minor') * 10 ^ (natDigits minor).length :=
          Nat.mul_le_mul_right _ (Nat.le_add_right _ _)
  · have hlength : (natDigits minor').length = (natDigits minor).length :=
      Nat.le_antisymm (hdigits rfl) (length_natDigits_mono hminors)
    rw [hlength]
    exact Nat.mul_le_mul_right _ (Nat.add_le_add_left hminors _)

namespace Number

/-- What is not less than a number is not less than what that is not less than. -/
theorem not_lt_trans {a b c : Number} (hb : b.place?.isSome) (hab : a.lt b = false)
    (hbc : b.lt c = false) : a.lt c = false := by
  obtain ⟨q, hq⟩ := Option.isSome_iff_exists.1 hb
  unfold lt at hab hbc ⊢
  rw [hq] at hab hbc
  cases ha : a.place? with
  | none => rfl
  | some p =>
    cases hc : c.place? with
    | none => rfl
    | some r =>
      rw [ha] at hab
      rw [hc] at hbc
      exact Place.not_lt_trans hab hbc

end Number

/-- The decimal of a version has a place. -/
theorem isSome_place?_decimalVersion (major minor : Nat) :
    (Number.float (decimalVersion major minor)).place?.isSome := by
  rw [decimalVersion, Binary64.ofDecimal_eq_ofRatio, Binary64.ofRatio]
  split <;> rfl

/-! ## What runtimes need -/

/-- Targets that ask for the running version and nothing else. -/
def currentRuntime : Value :=
  .map [(nodeKey, .text currentMarker)]

/-- Whether a normalizer takes the version of the runtime that replies so. -/
def Normalizer.RunsOn (normalizer : Normalizer) (reply : RuntimeReply) : Prop :=
  normalizer.nodeVersion.result = (runtimeVersion reply).result.map Value.float

/-- The canonical target is the version that the runtime has. -/
theorem Normalizer.normalize_currentRuntime {normalizer : Normalizer} {version : Value}
    (h : normalizer.nodeVersion.result = .ok version) :
    (normalizer.normalize currentRuntime).result = .ok [(nodeKey, version)] := by
  have hread : (TargetSpec.read normalizer.writing currentRuntime).result =
      .ok { environments := [(nodeKey, .current)] } := rfl
  have hdirect : (normalizer.direct [(nodeKey, .current)]).result = .ok [(nodeKey, version)] :=
    Traced.bind_result_ok_iff.2 ⟨version, h, rfl⟩
  refine Traced.bind_result_ok_iff.2 ⟨_, hread, ?_⟩
  exact Traced.bind_result_ok_iff.2 ⟨_, hdirect, rfl⟩

/-- A capability is required for the running version exactly if that is less than the version that
implements it, or none does. -/
theorem isRequired_currentRuntime {normalizer : Normalizer} {x : Binary64}
    (h : normalizer.nodeVersion.result = .ok (.float x)) (capability : Capability) :
    (isRequired normalizer currentRuntime capability.values).result =
      .ok ((capability.get? nodeKey).all fun version => (Number.float x).lt version) := by
  rw [currentRuntime, isRequired_of_shorthand rfl, ← currentRuntime,
    Normalizer.normalize_currentRuntime h]
  show (do if ← lacks capability.values nodeKey (.float x) then pure true else pure false) = _
  rw [lacks_values capability nodeKey rfl]
  cases (capability.get? nodeKey).all fun version => (Number.float x).lt version <;> rfl

/-- How the need for a capability compares between a runtime `vA.B.C` and a later one
`vA'.B'.C'`. -/
structure NeedsCompare (capability : Capability) (major minor major' minor' : Nat)
    (required required' : Bool) : Prop where
  /-- What the later runtime needs the earlier one needs too, unless the version that implements the
  capability is at most the decimal `A.B` and more than the decimal `A'.B'`. -/
  exception : (required' = true ∧ required = false) ↔
    ∃ version, capability.get? nodeKey = some version ∧
      (Number.float (decimalVersion major' minor')).lt version = true ∧
      (Number.float (decimalVersion major minor)).lt version = false
  /-- Then the two differ in the minor number only, and the later one has more digits there. -/
  digits : required' = true ∧ required = false →
    major = major' ∧ (natDigits minor).length < (natDigits minor').length

/-- A later runtime needs no more than an earlier one, except where it is the lesser decimal. -/
theorem isRequired_newerRuntime {older newer : Normalizer} {text text' : String}
    {major minor patch major' minor' patch' : Nat} (capability : Capability)
    (hprints : trim text.toList = versionText major minor patch)
    (hprints' : trim text'.toList = versionText major' minor' patch')
    (holder : older.RunsOn (.printed text)) (hnewer : newer.RunsOn (.printed text'))
    (hle : major < major' ∨ (major = major' ∧ minor ≤ minor')) :
    ∃ required required',
      (isRequired older currentRuntime capability.values).result = .ok required ∧
      (isRequired newer currentRuntime capability.values).result = .ok required' ∧
      NeedsCompare capability major minor major' minor' required required' := by
  have hversion : older.nodeVersion.result = .ok (.float (decimalVersion major minor)) := by
    rw [holder, runtimeVersion_of_versionText hprints]
    rfl
  have hversion' : newer.nodeVersion.result = .ok (.float (decimalVersion major' minor')) := by
    rw [hnewer, runtimeVersion_of_versionText hprints']
    rfl
  refine ⟨_, _, isRequired_currentRuntime hversion capability,
    isRequired_currentRuntime hversion' capability, ?_⟩
  have hexception : ∀ x x' : Number, ((capability.get? nodeKey).all
        (fun version => x'.lt version) = true ∧
      (capability.get? nodeKey).all (fun version => x.lt version) = false) ↔
      ∃ version, capability.get? nodeKey = some version ∧ x'.lt version = true ∧
        x.lt version = false := by
    intro x x'
    cases capability.get? nodeKey with
    | none => simp
    | some version => simp
  refine ⟨hexception _ _, fun hneeds => ?_⟩
  obtain ⟨version, -, hless, hnot⟩ := (hexception _ _).1 hneeds
  -- Otherwise the decimals are in order, and nothing lies between them.
  by_contra hdigits
  have hmono := decimalVersion_mono hle fun hmajor =>
    Nat.le_of_not_lt fun hlt => hdigits ⟨hmajor, hlt⟩
  have hnone := Number.not_lt_trans (isSome_place?_decimalVersion major minor) hmono hnot
  rw [hnone] at hless
  cases hless

/-- A normalizer with the shipped electron versions, whose runtime prints a text. -/
def runtimePrinting (text : String) : Normalizer where
  electron := shippedTables.electron
  nodeVersion := do return .float (← runtimeVersion (.printed text))

theorem runtimePrinting_runsOn (text : String) :
    (runtimePrinting text).RunsOn (.printed text) := by
  unfold Normalizer.RunsOn runtimePrinting
  rw [Traced.bind_result]
  cases (runtimeVersion (.printed text)).result <;> rfl

/-- The runtime `v6.10.0` needs no more than `v6.5.0`, but for what a version between `6.1` and
`6.5` implements. -/
theorem isRequired_sixTen :
    ∃ required required',
      (isRequired (runtimePrinting "v6.5.0") currentRuntime
        (Capability.values [("node", .float (.ofDecimal false 62 (-1)))])).result = .ok required ∧
      (isRequired (runtimePrinting "v6.10.0\n") currentRuntime
        (Capability.values [("node", .float (.ofDecimal false 62 (-1)))])).result = .ok required' ∧
      NeedsCompare [("node", .float (.ofDecimal false 62 (-1)))] 6 5 6 10 required required' := by
  have hprints : trim "v6.5.0".toList = versionText 6 5 0 := by decide
  have hprints' : trim "v6.10.0\n".toList = versionText 6 10 0 := by decide
  exact isRequired_newerRuntime _ hprints hprints' (runtimePrinting_runsOn _)
    (runtimePrinting_runsOn _) (.inr ⟨rfl, by decide⟩)

/-- The runtime `v6.9.0` has destructuring, and the later one `v6.10.0` is taken to be without. -/
theorem destructuring_needed_later :
    trim "v6.9.0\n".toList = versionText 6 9 0 ∧ trim "v6.10.0\n".toList = versionText 6 10 0 ∧
    ∃ capability, shippedTables.plugins.get? "transform-es2015-destructuring" = some capability ∧
      (isRequired (runtimePrinting "v6.9.0\n") currentRuntime capability.values).result =
        .ok false ∧
      (isRequired (runtimePrinting "v6.10.0\n") currentRuntime capability.values).result =
        .ok true := by
  have hanswers : (shippedTables.plugins.get? "transform-es2015-destructuring").any
      (fun capability =>
        (isRequired (runtimePrinting "v6.9.0\n") currentRuntime
            capability.values).result.toOption == some false &&
          (isRequired (runtimePrinting "v6.10.0\n") currentRuntime
            capability.values).result.toOption == some true) = true := by
    decide +kernel
  obtain ⟨capability, hcapability, hboth⟩ := (Option.any_eq_true _ _).1 hanswers
  obtain ⟨hbefore, hafter⟩ := Bool.and_eq_true_iff.1 hboth
  exact ⟨by decide, by decide, capability, hcapability, ok_of_toOption (beq_iff_eq.1 hbefore),
    ok_of_toOption (beq_iff_eq.1 hafter)⟩

end TransformPreset
