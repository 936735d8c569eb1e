import TransformPreset.Proofs.Capability.Selection
import TransformPreset.Proofs.Target.Canonical

/-!
# Requirement for canonical targets

A requirement is asked for canonical targets after they were made, and targets with a shorthand are
made canonical once more for each question. For the canonical targets of a specification that names
its environments plainly, as one that was read does, that makes no difference to any answer
(`requiredFor_of_isRequired`): the one shorthand that they can still have is a running version that
is no number, and then there is no answer.

A capability that is not required is known to every target: the table has a version for the
environment, and it is at most the targeted one (`le_of_not_required`).
-/

namespace TransformPreset

/-! ## Numbers at most others -/

namespace Number

/-- Whether the first number is at most the second. Not-a-number is at most nothing, and nothing is
at most not-a-number. -/
def le (a b : Number) : Bool :=
  a.place?.isSome && b.place?.isSome && !b.lt a

/-- Numbers with places are at most each other unless they are greater. -/
theorem le_of_not_lt {a b : Number} (ha : a.place?.isSome) (hb : b.place?.isSome)
    (h : b.lt a = false) : a.le b = true := by
  rw [le, ha, hb, h]
  rfl

/-- A number that is at most an integer is at most every greater one. -/
theorem le_int_trans {a : Number} {m n : Int} (h : a.le (.int m) = true) (hmn : m ≤ n) :
    a.le (.int n) = true := by
  unfold le at h ⊢
  rw [Bool.and_eq_true, Bool.and_eq_true, Bool.not_eq_true'] at h
  obtain ⟨⟨ha, -⟩, hlt⟩ := h
  obtain ⟨p, hp⟩ := Option.isSome_iff_exists.1 ha
  have hnm : (Number.int n).lt (.int m) = false := by
    rw [int_lt_int, decide_eq_false_iff_not]
    omega
  have hna : (Number.int n).lt a = false := by
    unfold lt at hnm hlt ⊢
    rw [hp] at hlt ⊢
    exact Place.not_lt_trans hnm hlt
  rw [ha, hna]
  rfl

end Number

/-- A number has a place unless it is not-a-number. -/
theorem Number.isSome_place? {n : Number} (h : n ≠ .float .nan) : n.place?.isSome := by
  cases n with
  | int n => rfl
  | float x =>
    cases x with
    | nan => exact absurd rfl h
    | infinite negative => rfl
    | finite negative units representable => rfl

/-! ## Answers are about the targets as they are -/

/-- Requirement is only decided for targets that are numbers. -/
theorem number_of_requiredFor {writing : Writing} {canonical : CanonicalTargets}
    {capability : Entries Value} {required : Bool}
    (h : requiredFor writing canonical capability = .ok required) :
    ∀ entry ∈ canonical, ∃ n, Value.number? entry.2 = some n := by
  unfold requiredFor at h
  split at h
  · rename_i hempty
    rw [List.isEmpty_iff.1 hempty]
    exact fun _ hentry => absurd hentry List.not_mem_nil
  · obtain ⟨⟨⟩, hchecked, -⟩ := except_bind_ok_iff.1 h
    exact checkVersions_ok_iff.1 hchecked

section

variable {normalizer : Normalizer} {spec : TargetSpec} {canonical : CanonicalTargets}

/-- A canonical target that asks for the running version is what the running version is. -/
theorem nodeVersion_of_asksCurrent (h : (normalizer.resolveSpec spec).result = .ok canonical)
    {value : Value} (hvalue : (nodeKey, value) ∈ canonical) (hasks : asksCurrent value = true) :
    normalizer.nodeVersion.result = .ok value := by
  rcases Normalizer.mem_resolveSpec h hvalue with ⟨c, -, hversion⟩ | ⟨hchrome, -⟩ | ⟨-, n, hn, -⟩
  · -- Only the running version can be a value that asks for the running version.
    cases c with
    | current => exact hversion
    | version x =>
      obtain rfl : .float x = value := Except.ok.inj hversion
      cases hasks
  · exact absurd (show nodeKey = "chrome" from hchrome) (by decide)
  · obtain rfl : value = .int n := hn
    cases hasks

/-- Canonical targets that ask for the running version are made canonical once more with the same
answer. -/
theorem mem_normalize_of_asksCurrent (h : (normalizer.resolveSpec spec).result = .ok canonical)
    (hspec : spec.NamesPlainly) {value : Value} (hget : canonical.get? nodeKey = some value)
    (hasks : asksCurrent value = true) {again : CanonicalTargets}
    (hagain : (normalizer.normalize (.map canonical)).result = .ok again) :
    (nodeKey, value) ∈ again := by
  obtain ⟨reread, hreread, hagain⟩ := Traced.bind_result_ok_iff.1 hagain
  have hplain : ∀ key ∈ shorthandKeys, canonical.get? key = none := by
    intro key hkey
    rw [Entries.get?_eq_none_iff]
    intro hmem
    obtain ⟨entry, hentry, rfl⟩ := List.mem_map.1 hmem
    exact Normalizer.resolveSpec_notMem_shorthandKeys h hspec.notMem_shorthandKeys entry hentry hkey
  have hnodup := Normalizer.nodup_resolveSpec h hspec.nodup
  -- The shorthands are missing, so that only the environments are read again.
  have hbrowsers := TargetSpec.browsers_of_readEntries hreread hnodup
  have helectron := TargetSpec.electron_of_readEntries hreread hnodup
  rw [hplain browsersKey (by decide)] at hbrowsers
  rw [hplain electronKey (by decide)] at helectron
  obtain ⟨c, hc, henvironment⟩ :=
    TargetSpec.environment_of_readEntries hreread hnodup hget (by decide)
  obtain rfl : c = .current := by
    rw [readConstraint, if_pos ⟨rfl, hasks⟩] at hc
    exact (Except.ok.inj hc).symm
  obtain ⟨direct, targets, hdirect, htargets, hfinal⟩ := Normalizer.resolveSpec_ok hagain
  rw [helectron] at htargets
  rw [hbrowsers] at hfinal
  obtain rfl : direct = targets := Except.ok.inj htargets
  obtain rfl : direct = again := Except.ok.inj hfinal
  obtain ⟨version, hversion, hmem⟩ :=
    Normalizer.mem_direct hdirect (Entries.mem_of_get? henvironment)
  -- Both times the environment has what the runtime answers.
  have hsame : normalizer.nodeVersion.result = .ok value :=
    nodeVersion_of_asksCurrent h (Entries.mem_of_get? hget) hasks
  obtain rfl : version = value := Except.ok.inj (hversion.symm.trans hsame)
  exact hmem

/-- An answer about the canonical targets of a specification that names its environments plainly is
about the targets as they are. -/
theorem requiredFor_of_isRequired (h : (normalizer.resolveSpec spec).result = .ok canonical)
    (hspec : spec.NamesPlainly) {capability : Entries Value} {required : Bool}
    (hanswer : (isRequired normalizer (.map canonical) capability).result = .ok required) :
    requiredFor normalizer.writing canonical capability = .ok required := by
  obtain ⟨compared, hcompared, hdecided⟩ := Traced.bind_result_ok_iff.1 hanswer
  rw [Traced.of_result] at hdecided
  rw [comparableTargets, usesShorthand_eq (Normalizer.resolveSpec_notMem_shorthandKeys h
    hspec.notMem_shorthandKeys)] at hcompared
  have hnone : (canonical.get? nodeKey).any asksCurrent = false := by
    rw [Bool.eq_false_iff]
    intro hany
    rw [if_pos hany] at hcompared
    cases hget : canonical.get? nodeKey with
    | none =>
      rw [hget] at hany
      cases hany
    | some value =>
      rw [hget] at hany
      have hmem := mem_normalize_of_asksCurrent h hspec hget hany hcompared
      -- A version that asks for the running one is no number, and then there is no answer.
      obtain ⟨n, hn⟩ := number_of_requiredFor hdecided _ hmem
      rw [Option.any_some, asksCurrent_eq_false hn] at hany
      cases hany
  rw [hnone, if_neg Bool.false_ne_true] at hcompared
  obtain rfl := Except.ok.inj hcompared
  exact hdecided

/-- A capability that is not required for canonical targets of a specification that was read has a
version for each of the environments, which the targeted one is not less than. -/
theorem le_of_not_required (h : (normalizer.resolveSpec spec).result = .ok canonical)
    (hspec : spec.IsRead) {capability : Capability}
    (hversions : ∀ entry ∈ capability, entry.2 ≠ .float .nan)
    (hanswer : (isRequired normalizer (.map canonical) capability.values).result = .ok false)
    {environment : String} {n : Int} (hget : canonical.get? environment = some (.int n)) :
    ∃ version, capability.get? environment = some version ∧ version.le (.int n) = true := by
  -- A negative answer says of every target, so of this one, that it does not lack the capability.
  have hfor := requiredFor_of_isRequired h hspec.namesPlainly hanswer
  have hlacks := (requiredFor_eq_false_iff.1 hfor).2.2 _ (Entries.mem_of_get? hget)
  obtain ⟨implemented, a, b, himplemented, ha, hb, hlt⟩ := lacks_eq_false_iff.1 hlacks
  unfold Capability.values at himplemented
  rw [Entries.get?_map] at himplemented
  obtain ⟨version, hversion, rfl⟩ := Option.map_eq_some_iff.1 himplemented
  obtain rfl : .int n = a := Option.some.inj ha
  rw [Value.ordinal?_of_number? (Value.number?_ofNumber version)] at hb
  obtain rfl : version = b := Option.some.inj hb
  refine ⟨version, hversion, Number.le_of_not_lt ?_ rfl hlt⟩
  exact Number.isSome_place? (hversions _ (Entries.mem_of_get? hversion))

end

end TransformPreset
