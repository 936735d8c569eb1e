import Mathlib.Algebra.Group.Int.Defs
import TransformPreset.Proofs.Capability.Requirement
import TransformPreset.Proofs.Target.Plain

/-!
# Ways to ask for a requirement

A requirement can be asked for a table of targets, for the specification that it reads as, and for
its canonical targets. A table without shorthands is compared as it is, and the other two are made
canonical first; the answers agree all the same (`isRequired_agrees`), because making a plain table
canonical moves no version from its place. Canonical targets are made canonical once more if their
runtime version asks for the running one, as it does where the runtime answers so. Then no way has
an answer, and the failures agree unless the canonical targets cannot be read again.
-/

namespace TransformPreset

variable {normalizer : Normalizer} {targets canonical : CanonicalTargets}
  {capability : Entries Value}

/-! ## Targets at the same places -/

/-- Whether a capability is lacked only depends on the place of the version. -/
theorem lacks_congr {value other : Value} (h : value.Alike other) (environment : String) :
    lacks capability environment value = lacks capability environment other := by
  obtain ⟨m, n, hm, hn, hplace⟩ := h
  unfold lacks
  rw [Value.ordinal?_of_number? hm, Value.ordinal?_of_number? hn]
  split
  · rfl
  · rfl
  · rename_i implemented _ _
    cases implemented.ordinal? with
    | none => rfl
    | some b =>
      dsimp only
      rw [Number.lt_congr hplace]

/-- So does whether some target lacks it. -/
theorem someLacks_congr (h : CanonicalTargets.Alike targets canonical) :
    someLacks capability targets = someLacks capability canonical := by
  induction h with
  | nil => rfl
  | cons hentry _ ih =>
    rename_i entry other _ _ _
    obtain ⟨environment, value⟩ := entry
    obtain ⟨environment', value'⟩ := other
    obtain ⟨rfl, hvalue⟩ : environment = environment' ∧ value.Alike value' := hentry
    rw [someLacks, someLacks, lacks_congr hvalue, ih]

/-- Targets at the same places are numbers on both sides. -/
theorem numbers_of_alike (h : CanonicalTargets.Alike targets canonical) :
    (∀ entry ∈ targets, ∃ n, Value.number? entry.2 = some n) ∧
      ∀ entry ∈ canonical, ∃ n, Value.number? entry.2 = some n := by
  induction h with
  | nil => exact ⟨fun _ h => absurd h List.not_mem_nil, fun _ h => absurd h List.not_mem_nil⟩
  | cons hentry _ ih =>
    obtain ⟨-, m, n, hm, hn, -⟩ := hentry
    exact ⟨List.forall_mem_cons.2 ⟨⟨m, hm⟩, ih.1⟩, List.forall_mem_cons.2 ⟨⟨n, hn⟩, ih.2⟩⟩

/-- Whether a capability is required only depends on the places of the versions. -/
theorem requiredFor_congr (h : CanonicalTargets.Alike targets canonical) :
    requiredFor writing targets capability = requiredFor writing canonical capability := by
  have hempty : targets.isEmpty = canonical.isEmpty := by
    cases h <;> rfl
  obtain ⟨hnumbers, hnumbers'⟩ := numbers_of_alike h
  rw [requiredFor, requiredFor, hempty, checkVersions_ok_iff.2 hnumbers,
    checkVersions_ok_iff.2 hnumbers', someLacks_congr h]

/-- Targets whose versions fail their check have no answer, for the same reason. -/
theorem requiredFor_error {failure : Failure} (h : checkVersions writing targets = .error failure) :
    requiredFor writing targets capability = .error failure := by
  cases targets with
  | nil => cases h
  | cons entry rest => exact except_bind_error_iff.2 (.inl h)

/-- The check of versions fails for an entry that is the only one with no number. -/
theorem checkVersions_of_mem {environment : String} {value : Value}
    (hmem : (environment, value) ∈ targets) (hvalue : value.number? = none)
    (hothers : ∀ entry ∈ targets, entry = (environment, value) ∨
      ∃ n, Value.number? entry.2 = some n) :
    checkVersions writing targets =
      .error (value.showing writing.levels (.versionNotNumber environment value)) := by
  induction targets with
  | nil => exact absurd hmem List.not_mem_nil
  | cons entry rest ih =>
    obtain ⟨hentry, hrest⟩ := List.forall_mem_cons.1 hothers
    obtain ⟨name, version⟩ := entry
    rw [checkVersions]
    rcases hentry with heq | ⟨n, hn⟩
    · obtain ⟨rfl, rfl⟩ := Prod.mk.inj heq
      rw [hvalue]
    · have hlater : (environment, value) ∈ rest := by
        refine (List.mem_cons.1 hmem).resolve_left fun heq => ?_
        obtain ⟨-, rfl⟩ := Prod.mk.inj heq
        rw [show value.number? = some n from hn] at hvalue
        cases hvalue
      rw [show version.number? = some n from hn]
      exact ih hlater hrest

/-- The check of versions fails for the runtime if that has the only version that is no number. -/
theorem checkVersions_of_node (hdistinct : targets.keys.Nodup) {value : Value}
    (hget : targets.get? nodeKey = some value) (hasks : asksCurrent value = true)
    (hothers : ∀ environment version, environment ≠ nodeKey →
      targets.get? environment = some version → ∃ n, version.number? = some n) :
    checkVersions writing targets =
      .error (value.showing writing.levels (.versionNotNumber nodeKey value)) := by
  have hmarker : value.number? = none := by
    rw [Option.eq_none_iff_forall_ne_some]
    intro n hn
    rw [asksCurrent_eq_false hn] at hasks
    cases hasks
  refine checkVersions_of_mem (Entries.mem_of_get? hget) hmarker ?_
  rintro ⟨environment, version⟩ hentry
  have hversion := Entries.get?_of_mem hdistinct hentry
  by_cases hnode : environment = nodeKey
  · subst hnode
    rw [Option.some.inj (hversion.symm.trans hget)]
    exact .inl rfl
  · exact .inr (hothers environment version hnode hversion)

/-! ## The ways -/

/-- A table that uses no shorthand is compared as it is. -/
theorem isRequired_of_plain (h : usesShorthand targets = false) :
    (isRequired normalizer (.map targets) capability).result =
      requiredFor normalizer.writing targets capability := by
  have hcompared : comparableTargets normalizer (.map targets) = pure targets := by
    rw [comparableTargets, h, if_neg Bool.false_ne_true]
  rw [isRequired, hcompared, pure_bind, Traced.of_result]

/-- A table that uses a shorthand is made canonical first. -/
theorem isRequired_of_shorthand (h : usesShorthand targets = true) :
    (isRequired normalizer (.map targets) capability).result =
      (normalizer.normalize (.map targets)).result >>= fun canonical =>
        requiredFor normalizer.writing canonical capability := by
  rw [isRequired, comparableTargets, h, if_pos rfl, Traced.bind_result]
  rfl

/-- A specification is made canonical first. -/
theorem isRequired_of_spec (normalizer : Normalizer) (spec : TargetSpec) :
    (isRequired normalizer (.spec spec) capability).result =
      (normalizer.resolveSpec spec).result >>= fun canonical =>
        requiredFor normalizer.writing canonical capability := by
  rw [isRequired, comparableTargets, Normalizer.normalize_spec, Traced.bind_result]
  rfl

/-- Canonical targets use a shorthand only if they ask for the running version. -/
theorem usesShorthand_of_normalize
    (h : (normalizer.normalize (.map targets)).result = .ok canonical) :
    (∀ key ∈ shorthandKeys, key ∉ canonical.keys) ∧
      usesShorthand canonical = (canonical.get? nodeKey).any asksCurrent := by
  obtain ⟨spec, hread, hresolve⟩ := Traced.bind_result_ok_iff.1 h
  have hspec : spec.IsRead := ⟨_, targets, hread⟩
  have hplain := Normalizer.resolveSpec_notMem_shorthandKeys hresolve
    fun _ => hspec.notMem_shorthandKeys
  refine ⟨fun key hkey hmem => ?_, usesShorthand_eq hplain⟩
  obtain ⟨entry, hentry, rfl⟩ := List.mem_map.1 hmem
  exact hplain entry hentry hkey

/-! ## Canonical targets that ask for the running version -/

section

variable {raw : Entries Value} {value : Value}

/-- Canonical targets that can be read again have constraints on all environments. -/
theorem exists_readConstraint (h : (normalizer.normalize (.map raw)).result = .ok canonical)
    (hreadable : ∃ spec, (TargetSpec.read normalizer.writing (.map canonical)).result = .ok spec)
    {environment : String} {version : Value} (hget : canonical.get? environment = some version) :
    ∃ c, readConstraint normalizer.writing environment version = .ok c := by
  have hmem := Entries.mem_of_get? hget
  refine ((TargetSpec.exists_read_iff normalizer.writing canonical).1 hreadable _ hmem).direct
    fun hshort => ?_
  exact (usesShorthand_of_normalize h).1 environment hshort (Entries.mem_keys_of_mem hmem)

/-- Canonical targets that ask for the running version and can be read again become canonical once
more, and ask for it again; what the others are then are numbers. -/
theorem exists_again (h : (normalizer.normalize (.map raw)).result = .ok canonical)
    (hdistinct : canonical.keys.Nodup) (hnode : normalizer.nodeVersion.result = .ok value)
    (hget : canonical.get? nodeKey = some value) (hasks : asksCurrent value = true)
    (hreadable : ∃ spec, (TargetSpec.read normalizer.writing (.map canonical)).result = .ok spec) :
    ∃ again, (normalizer.normalize (.map canonical)).result = .ok again ∧ again.keys.Nodup ∧
      again.get? nodeKey = some value ∧ ∀ environment version, environment ≠ nodeKey →
        again.get? environment = some version → ∃ n, version.number? = some n := by
  have hnone := (usesShorthand_of_normalize h).1
  obtain ⟨again, hagain⟩ : ∃ again,
      (normalizer.normalize (.map canonical)).result = .ok again := by
    refine (Normalizer.exists_normalize_iff normalizer hdistinct).2
      (Normalizer.resolvable_of_notMem hnone fun environment version hversion => ?_)
    obtain ⟨c, hc⟩ := exists_readConstraint h hreadable hversion
    rw [Normalizer.directVersion?_eq, hc]
    cases c with
    | current => exact Normalizer.isSome_toOption_iff.2 ⟨value, hnode⟩
    | version x => rfl
  obtain ⟨hkeys, hlookup⟩ := Normalizer.normalize_of_notMem hnone hdistinct hagain
  refine ⟨again, hagain, hkeys ▸ hdistinct, ?_, fun environment version hother hversion => ?_⟩
  · rw [hlookup, hget, Option.bind_some, Normalizer.directVersion?, if_pos ⟨rfl, hasks⟩, hnode]
    rfl
  · rw [hlookup] at hversion
    obtain ⟨old, -, hversion⟩ := Option.bind_eq_some_iff.1 hversion
    rw [Normalizer.directVersion?, if_neg fun hboth => hother hboth.1] at hversion
    obtain ⟨n, -, hversion⟩ := Option.bind_eq_some_iff.1 hversion
    obtain ⟨x, -, rfl⟩ := Option.map_eq_some_iff.1 hversion
    exact ⟨.float x, rfl⟩

/-- Canonical targets that ask for the running version have no answer if they can be read again, and
it is the running version that is no number. -/
theorem isRequired_of_asksCurrent (h : (normalizer.normalize (.map raw)).result = .ok canonical)
    (hget : canonical.get? nodeKey = some value) (hasks : asksCurrent value = true)
    (hreadable : ∃ spec, (TargetSpec.read normalizer.writing (.map canonical)).result = .ok spec) :
    (isRequired normalizer (.map canonical) capability).result =
      requiredFor normalizer.writing canonical capability := by
  obtain ⟨spec, hread, hresolve⟩ := Traced.bind_result_ok_iff.1 h
  have hspec : spec.IsRead := ⟨_, raw, hread⟩
  have hdistinct := Normalizer.nodup_resolveSpec hresolve hspec.nodup
  have hnode := nodeVersion_of_asksCurrent hresolve (Entries.mem_of_get? hget) hasks
  obtain ⟨again, hagain, hdistinct', hget', hothers⟩ :=
    exists_again h hdistinct hnode hget hasks hreadable
  have hfirst : checkVersions normalizer.writing canonical =
      .error (value.showing normalizer.writing.levels (.versionNotNumber nodeKey value)) := by
    refine checkVersions_of_node hdistinct hget hasks fun environment version hother hversion => ?_
    -- The version can be read, and the key is not that of the runtime.
    obtain ⟨c, hc⟩ := exists_readConstraint h hreadable hversion
    rw [readConstraint, if_neg fun hboth => hother hboth.1] at hc
    cases hn : version.number? with
    | none =>
      rw [hn] at hc
      cases hc
    | some n => exact ⟨n, rfl⟩
  have hsecond : checkVersions normalizer.writing again =
      .error (value.showing normalizer.writing.levels (.versionNotNumber nodeKey value)) :=
    checkVersions_of_node hdistinct' hget' hasks hothers
  have hshorthand : usesShorthand canonical = true := by
    rw [(usesShorthand_of_normalize h).2, hget, Option.any_some, hasks]
  rw [isRequired_of_shorthand hshorthand, hagain, requiredFor_error hfirst]
  exact requiredFor_error hsecond

end

/-! ## Agreement -/

/-- Canonical targets that can be asked about a second time: if they ask for the running version,
they can be read again. -/
def CanonicalTargets.Rereadable (writing : Writing) (canonical : CanonicalTargets) : Prop :=
  (canonical.get? nodeKey).any asksCurrent = true →
    ∃ spec, (TargetSpec.read writing (.map canonical)).result = .ok spec

/-- How the ways to ask for a requirement agree about a table of targets. -/
structure RequirementAgrees (normalizer : Normalizer) (raw capability : Entries Value) : Prop where
  /-- The specification that the table reads as has the same answer, or the same failure. -/
  spec : ∀ spec, (TargetSpec.read normalizer.writing (.map raw)).result = .ok spec →
    (isRequired normalizer (.spec spec) capability).result =
      (isRequired normalizer (.map raw) capability).result
  /-- So have the canonical targets of the table, if they can be asked about a second time. -/
  canonical : ∀ canonical, (normalizer.normalize (.map raw)).result = .ok canonical →
    canonical.Rereadable normalizer.writing →
      (isRequired normalizer (.map canonical) capability).result =
        (isRequired normalizer (.map raw) capability).result
  /-- If they cannot, neither way has an answer. -/
  unreadable : ∀ canonical failure, (normalizer.normalize (.map raw)).result = .ok canonical →
    (canonical.get? nodeKey).any asksCurrent = true →
      (TargetSpec.read normalizer.writing (.map canonical)).result = .error failure →
        (isRequired normalizer (.map canonical) capability).result = .error failure ∧
          ∃ other, (isRequired normalizer (.map raw) capability).result = .error other
  /-- A table that cannot be read has the failure of reading it. -/
  readError : ∀ failure, (TargetSpec.read normalizer.writing (.map raw)).result = .error failure →
    (isRequired normalizer (.map raw) capability).result = .error failure
  /-- A table that cannot become canonical has the failure of making it so. -/
  normalizeError : ∀ failure, (normalizer.normalize (.map raw)).result = .error failure →
    (isRequired normalizer (.map raw) capability).result = .error failure

/-- A table that becomes canonical has the answer for its canonical targets. -/
theorem isRequired_of_normalize {raw : Entries Value} (hdistinct : raw.keys.Nodup)
    (hexact : ExactIntegers raw)
    (h : (normalizer.normalize (.map raw)).result = .ok canonical) :
    (isRequired normalizer (.map raw) capability).result =
      requiredFor normalizer.writing canonical capability := by
  cases hshort : usesShorthand raw with
  | true =>
    rw [isRequired_of_shorthand hshort, h]
    rfl
  | false =>
    have hplain := plain_of_usesShorthand hdistinct hshort
    have hnumbers : ∀ entry ∈ raw, ∃ n, Value.number? entry.2 = some n := by
      cases hchecked : checkVersions normalizer.writing raw with
      | ok done => exact checkVersions_ok_iff.1 hchecked
      | error failure =>
        obtain ⟨spec, hread, -⟩ := Traced.bind_result_ok_iff.1 h
        rw [TargetSpec.read_error_of_checkVersions hplain hexact hchecked] at hread
        cases hread
    obtain ⟨found, hfound, halike⟩ := normalizer.exists_alike hplain hexact hdistinct hnumbers
    obtain rfl := Except.ok.inj (hfound.symm.trans h)
    rw [isRequired_of_plain hshort, requiredFor_congr halike]

/-- A table that does not become canonical has no answer, for the same reason. -/
theorem isRequired_of_normalize_error {raw : Entries Value} (hdistinct : raw.keys.Nodup)
    (hexact : ExactIntegers raw) {failure : Failure}
    (h : (normalizer.normalize (.map raw)).result = .error failure) :
    (isRequired normalizer (.map raw) capability).result = .error failure := by
  cases hshort : usesShorthand raw with
  | true =>
    rw [isRequired_of_shorthand hshort, h]
    rfl
  | false =>
    have hplain := plain_of_usesShorthand hdistinct hshort
    cases hchecked : checkVersions normalizer.writing raw with
    | ok done =>
      obtain ⟨found, hfound, -⟩ :=
        normalizer.exists_alike hplain hexact hdistinct (checkVersions_ok_iff.1 hchecked)
      rw [hfound] at h
      cases h
    | error other =>
      have hread := TargetSpec.read_error_of_checkVersions hplain hexact hchecked
      have hsame : (normalizer.normalize (.map raw)).result = .error other :=
        Traced.bind_result_error_iff.2 (.inl hread)
      rw [isRequired_of_plain hshort, requiredFor_error hchecked,
        Except.error.inj (hsame.symm.trans h)]

/-- The ways to ask for a requirement agree about every table of targets without long integers. -/
theorem isRequired_agrees (normalizer : Normalizer) (raw capability : Entries Value)
    (hdistinct : raw.keys.Nodup) (hexact : ExactIntegers raw) :
    RequirementAgrees normalizer raw capability where
  spec spec hread := by
    have hsame : (normalizer.normalize (.map raw)).result =
        (normalizer.resolveSpec spec).result := by
      rw [Normalizer.normalize, Traced.bind_result, hread]
      rfl
    rw [isRequired_of_spec, ← hsame]
    cases h : (normalizer.normalize (.map raw)).result with
    | ok canonical => exact (isRequired_of_normalize hdistinct hexact h).symm
    | error failure => exact (isRequired_of_normalize_error hdistinct hexact h).symm
  canonical canonical h hrereadable := by
    rw [isRequired_of_normalize hdistinct hexact h]
    have huses := (usesShorthand_of_normalize h).2
    cases hasks : (canonical.get? nodeKey).any asksCurrent with
    | false => exact isRequired_of_plain (huses.trans hasks)
    | true =>
      obtain ⟨value, hget, hvalue⟩ := (Option.any_eq_true _ _).1 hasks
      exact isRequired_of_asksCurrent h hget hvalue (hrereadable hasks)
  unreadable canonical failure h hasks hread := by
    have huses : usesShorthand canonical = true :=
      (usesShorthand_of_normalize h).2.trans hasks
    have hagain : (normalizer.normalize (.map canonical)).result = .error failure :=
      Traced.bind_result_error_iff.2 (.inl hread)
    rw [isRequired_of_shorthand huses, hagain, isRequired_of_normalize hdistinct hexact h]
    refine ⟨rfl, ?_⟩
    cases hanswer : requiredFor normalizer.writing canonical capability with
    | error other => exact ⟨other, rfl⟩
    | ok required =>
      -- What asks for the running version is no number, so there is no answer.
      obtain ⟨value, hget, hvalue⟩ := (Option.any_eq_true _ _).1 hasks
      obtain ⟨n, hn⟩ := number_of_requiredFor hanswer _ (Entries.mem_of_get? hget)
      rw [asksCurrent_eq_false hn] at hvalue
      cases hvalue
  readError failure hread := by
    refine isRequired_of_normalize_error hdistinct hexact ?_
    exact Traced.bind_result_error_iff.2 (.inl hread)
  normalizeError failure h := isRequired_of_normalize_error hdistinct hexact h

/-- A table with an electron version has the answer of its canonical targets, in which chrome has
the version that the electron version stands for. -/
theorem shipped_isRequired_agrees :
    ∃ canonical, ((Session.shipped 18).normalizer.normalize
        (.map [("chrome", .int (2 ^ 53)), ("electron", .text "1.4")])).result = .ok canonical ∧
      (isRequired (Session.shipped 18).normalizer (.map canonical) [("chrome", .int 54)]).result =
        .ok true ∧
      (isRequired (Session.shipped 18).normalizer
        (.map [("chrome", .int (2 ^ 53)), ("electron", .text "1.4")])
        [("chrome", .int 54)]).result = .ok true := by
  have hagrees := isRequired_agrees (Session.shipped 18).normalizer
    [("chrome", .int (2 ^ 53)), ("electron", .text "1.4")] [("chrome", .int 54)] (by decide) (by
      rintro entry hentry n hn
      rcases List.mem_cons.1 hentry with rfl | hentry
      · obtain rfl := Value.int.inj hn
        decide
      · obtain rfl := List.mem_singleton.1 hentry
        cases hn)
  obtain ⟨canonical, hcanonical⟩ : ∃ canonical, ((Session.shipped 18).normalizer.normalize
      (.map [("chrome", .int (2 ^ 53)), ("electron", .text "1.4")])).result = .ok canonical :=
    exists_ok_of_isSome (by decide +kernel)
  have hanswer : (isRequired (Session.shipped 18).normalizer
      (.map [("chrome", .int (2 ^ 53)), ("electron", .text "1.4")])
      [("chrome", .int 54)]).result = .ok true :=
    ok_of_toOption (by decide +kernel)
  have hreadable : CanonicalTargets.Rereadable {} canonical := by
    have hnode : Entries.get? canonical nodeKey = none :=
      (Normalizer.means_of_normalize (by decide) hcanonical).get? nodeKey
    intro hasks
    rw [hnode] at hasks
    cases hasks
  exact ⟨canonical, hcanonical, (hagrees.canonical canonical hcanonical hreadable).trans hanswer,
    hanswer⟩

/-- An integer that is too large for a binary64 number. -/
def longInteger : Int :=
  Nat.pow 10 309

/-- A normalizer whose runtime answers with what asks for it, and whose one electron version stands
for a version of chrome that has no binary64 number. -/
def answersMarker : Normalizer where
  electron := [("1.4", .int longInteger)]
  nodeVersion := pure (.bool true)

/-- Asked for a table, the runtime is found to have no number; asked for its canonical targets, the
version of chrome is found to be too large. -/
theorem isRequired_disagrees :
    ExactIntegers [("node", .bool true), ("electron", .text "1.4")] ∧
    (isRequired answersMarker (.map [("node", .bool true), ("electron", .text "1.4")]) []).result =
      .error (.versionNotNumber "node" (.bool true)) ∧
    ∃ canonical,
      (answersMarker.normalize (.map [("node", .bool true), ("electron", .text "1.4")])).result =
        .ok canonical ∧
      (isRequired answersMarker (.map canonical) []).result = .error .integerTooLarge := by
  refine ⟨?exact, rfl, [("node", .bool true), ("chrome", .int longInteger)], rfl, ?again⟩
  case exact =>
    rintro entry hentry n hn
    rcases List.mem_cons.1 hentry with rfl | hentry
    · cases hn
    · obtain rfl := List.mem_singleton.1 hentry
      cases hn
  case again =>
    have hnone : Binary64.ofInt? longInteger = none := by
      decide +kernel
    have hread : readConstraint {} "chrome" (.int longInteger) = .error .integerTooLarge := by
      rw [readConstraint, if_neg fun hboth => absurd hboth.1 (by decide)]
      show (inRange (Binary64.ofInt? longInteger)).map Constraint.version = _
      rw [hnone]
      rfl
    have hsecond : (TargetSpec.readEntries {} { environments := [("node", .current)] }
        [("chrome", .int longInteger)]).result = .error .integerTooLarge := by
      refine Traced.bind_result_error_iff.2 (.inl ?_)
      rw [TargetSpec.readEntry, if_neg (by decide), if_neg (by decide), hread]
      rfl
    have hfirst : (TargetSpec.readEntry {} {} "node" (.bool true)).result =
        .ok { environments := [("node", .current)] } := rfl
    rw [isRequired_of_shorthand rfl]
    refine except_bind_error_iff.2 (.inl (Traced.bind_result_error_iff.2 (.inl ?_)))
    exact Traced.bind_result_error_iff.2 (.inr ⟨_, hfirst, hsecond⟩)

end TransformPreset
