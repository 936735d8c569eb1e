import TransformPreset.Proofs.Capability.Selection
import TransformPreset.Proofs.Target.Reading
import TransformPreset.Proofs.Target.Release

/-!
# What a specification resolves to

`resolveSpec_ok` takes a successful resolution apart into its three stages: the environments named
directly, the electron version over them, and the browser queries below both. Every canonical target
comes from one of the three (`mem_resolveSpec`). So canonical targets of a specification that was
read are comparable as soon as the outside world answers with numbers (`resolveSpec_comparable`),
and a known browser that is not named directly has the least version of the queries
(`resolveSpec_get?_of_browser`).
-/

namespace TransformPreset

namespace Normalizer

variable {normalizer : Normalizer} {spec : TargetSpec} {canonical : CanonicalTargets}

/-! ## The three stages -/

/-- The environments named directly keep their keys, and each has the version that its constraint
asks for. -/
theorem direct_ok {environments : Entries Constraint} {targets : CanonicalTargets}
    (h : (normalizer.direct environments).result = .ok targets) :
    targets.keys = environments.keys ∧ ∀ entry ∈ targets, ∃ c, (entry.1, c) ∈ environments ∧
      (normalizer.versionOf c).result = .ok entry.2 := by
  induction environments generalizing targets with
  | nil =>
    rw [direct, Traced.pure_result, Except.ok.injEq] at h
    subst h
    exact ⟨rfl, fun _ hentry => absurd hentry List.not_mem_nil⟩
  | cons first rest ih =>
    obtain ⟨environment, c⟩ := first
    obtain ⟨version, hversion, h⟩ := Traced.bind_result_ok_iff.1 h
    obtain ⟨others, hothers, h⟩ := Traced.bind_result_ok_iff.1 h
    rw [Traced.pure_result, Except.ok.injEq] at h
    subst h
    obtain ⟨hkeys, hall⟩ := ih hothers
    refine ⟨congrArg (environment :: ·) hkeys, List.forall_mem_cons.2 ⟨?_, ?_⟩⟩
    · exact ⟨c, List.mem_cons_self, hversion⟩
    · intro entry hentry
      obtain ⟨d, hd, hanswer⟩ := hall entry hentry
      exact ⟨d, List.mem_cons_of_mem _ hd, hanswer⟩

/-- Each environment named directly has the version that its constraint asks for. -/
theorem mem_direct {environments : Entries Constraint} {targets : CanonicalTargets}
    (h : (normalizer.direct environments).result = .ok targets) {environment : String}
    {c : Constraint} (hc : (environment, c) ∈ environments) :
    ∃ version, (normalizer.versionOf c).result = .ok version ∧
      (environment, version) ∈ targets := by
  induction environments generalizing targets with
  | nil => exact absurd hc List.not_mem_nil
  | cons first rest ih =>
    obtain ⟨name, d⟩ := first
    obtain ⟨version, hversion, h⟩ := Traced.bind_result_ok_iff.1 h
    obtain ⟨others, hothers, h⟩ := Traced.bind_result_ok_iff.1 h
    rw [Traced.pure_result, Except.ok.injEq] at h
    subst h
    rcases List.mem_cons.1 hc with heq | hrest
    · obtain ⟨rfl, rfl⟩ := Prod.mk.inj heq
      exact ⟨version, hversion, List.mem_cons_self⟩
    · obtain ⟨answer, hanswer, hmem⟩ := ih hothers hrest
      exact ⟨answer, hanswer, List.mem_cons_of_mem _ hmem⟩

/-- The targets with the chrome version of an electron version, if there is one. -/
theorem withElectron_ok {targets next : CanonicalTargets} {version : String}
    (h : (normalizer.withElectron targets version).result = .ok next) :
    ∃ chrome, chromeOfElectron normalizer.electron version = .ok chrome ∧
      next = targets.insert "chrome" chrome := by
  obtain ⟨chrome, hchrome, h⟩ := Traced.bind_result_ok_iff.1 h
  obtain ⟨-, -, h⟩ := Traced.bind_result_ok_iff.1 h
  exact ⟨chrome, hchrome, (Except.ok.inj h).symm⟩

/-- The targets over the least versions of the releases that the queries resolve to. -/
theorem withBrowsers_ok {targets next : CanonicalTargets} {queries : List String}
    (h : (normalizer.withBrowsers targets queries).result = .ok next) :
    ∃ releases lowest, normalizer.resolve queries = .ok releases ∧
      (lowestVersions releases).result = .ok lowest ∧
      next = Entries.overlay (lowest.map fun (name, n) => (name, Value.int n)) targets := by
  obtain ⟨-, -, h⟩ := Traced.bind_result_ok_iff.1 h
  obtain ⟨releases, hreleases, h⟩ := Traced.bind_result_ok_iff.1 h
  obtain ⟨lowest, hlowest, h⟩ := Traced.bind_result_ok_iff.1 h
  obtain ⟨-, -, h⟩ := Traced.bind_result_ok_iff.1 h
  exact ⟨releases, lowest, hreleases, hlowest, (Except.ok.inj h).symm⟩

/-- The second stage: the chrome version of the electron version, if there is one. -/
def electronStage (normalizer : Normalizer) (electron? : Option String)
    (targets : CanonicalTargets) : Traced CanonicalTargets :=
  match electron? with
  | none => pure targets
  | some version => normalizer.withElectron targets version

/-- The third stage: the browsers of the queries, if there are any. -/
def browserStage (normalizer : Normalizer) (browsers? : Option (List String))
    (targets : CanonicalTargets) : Traced CanonicalTargets :=
  match browsers? with
  | none => pure targets
  | some queries => normalizer.withBrowsers targets queries

/-- Resolution is its three stages in sequence. -/
theorem resolveSpec_eq (normalizer : Normalizer) (spec : TargetSpec) :
    normalizer.resolveSpec spec =
      (normalizer.direct spec.environments >>= fun direct =>
        normalizer.electronStage spec.electron direct >>=
          normalizer.browserStage spec.browsers) := by
  unfold resolveSpec electronStage
  cases spec.electron <;> rfl

/-- The second stage leaves the targets if there is no electron version, and otherwise gives chrome
the version that the table has for it. -/
theorem electronStage_ok {electron? : Option String} {targets next : CanonicalTargets}
    (h : (normalizer.electronStage electron? targets).result = .ok next) :
    electron? = none ∧ next = targets ∨
    ∃ version chrome, electron? = some version ∧
      chromeOfElectron normalizer.electron version = .ok chrome ∧
      next = targets.insert "chrome" chrome := by
  cases electron? with
  | none => exact .inl ⟨rfl, (Except.ok.inj h).symm⟩
  | some version =>
    obtain ⟨chrome, hchrome, hnext⟩ := withElectron_ok h
    exact .inr ⟨version, chrome, rfl, hchrome, hnext⟩

/-- The third stage leaves the targets if there are no queries, and otherwise lays them over the
least versions of the queries. -/
theorem browserStage_ok {browsers? : Option (List String)} {targets next : CanonicalTargets}
    (h : (normalizer.browserStage browsers? targets).result = .ok next) :
    browsers? = none ∧ next = targets ∨
    ∃ queries releases lowest, browsers? = some queries ∧
      normalizer.resolve queries = .ok releases ∧
      (lowestVersions releases).result = .ok lowest ∧
      next = Entries.overlay (lowest.map fun (name, n) => (name, Value.int n)) targets := by
  cases browsers? with
  | none => exact .inl ⟨rfl, (Except.ok.inj h).symm⟩
  | some queries =>
    obtain ⟨releases, lowest, hreleases, hlowest, hnext⟩ := withBrowsers_ok h
    exact .inr ⟨queries, releases, lowest, rfl, hreleases, hlowest, hnext⟩

/-- A successful resolution, stage by stage. -/
theorem resolveSpec_ok (h : (normalizer.resolveSpec spec).result = .ok canonical) :
    ∃ direct targets, (normalizer.direct spec.environments).result = .ok direct ∧
      (normalizer.electronStage spec.electron direct).result = .ok targets ∧
      (normalizer.browserStage spec.browsers targets).result = .ok canonical := by
  rw [resolveSpec_eq] at h
  obtain ⟨direct, hdirect, h⟩ := Traced.bind_result_ok_iff.1 h
  obtain ⟨targets, htargets, h⟩ := Traced.bind_result_ok_iff.1 h
  exact ⟨direct, targets, hdirect, htargets, h⟩

/-- Canonical targets of a value that is a specification are those of the specification. -/
theorem normalize_spec (normalizer : Normalizer) (spec : TargetSpec) :
    normalizer.normalize (.spec spec) = normalizer.resolveSpec spec := by
  unfold normalize
  exact pure_bind _ _

/-! ## Where canonical targets come from -/

/-- Every canonical target is named directly, the chrome of an electron version, or a browser of the
queries. -/
theorem mem_resolveSpec (h : (normalizer.resolveSpec spec).result = .ok canonical)
    {entry : String × Value} (hentry : entry ∈ canonical) :
    (∃ c, (entry.1, c) ∈ spec.environments ∧ (normalizer.versionOf c).result = .ok entry.2) ∨
    (entry.1 = "chrome" ∧ ∃ version,
      chromeOfElectron normalizer.electron version = .ok entry.2) ∨
    (entry.1 ∈ browserEnvironments.map Prod.snd ∧ ∃ n, entry.2 = .int n ∧ isTooLong n = false) := by
  obtain ⟨direct, targets, hdirect, helectron, hbrowsers⟩ := resolveSpec_ok h
  -- The first two stages bring what is named directly and the chrome of an electron version.
  have htargets : entry ∈ targets → (∃ c, (entry.1, c) ∈ spec.environments ∧
      (normalizer.versionOf c).result = .ok entry.2) ∨ (entry.1 = "chrome" ∧ ∃ version,
      chromeOfElectron normalizer.electron version = .ok entry.2) := by
    intro hmem
    rcases electronStage_ok helectron with ⟨-, rfl⟩ | ⟨version, chrome, -, hchrome, rfl⟩
    · exact .inl ((direct_ok hdirect).2 entry hmem)
    · rcases Entries.mem_insert hmem with rfl | hmem
      · exact .inr ⟨rfl, version, hchrome⟩
      · exact .inl ((direct_ok hdirect).2 entry hmem)
  rcases browserStage_ok hbrowsers with ⟨-, rfl⟩ | ⟨_, releases, lowest, -, -, hlowest, rfl⟩
  · exact (htargets hentry).imp_right .inl
  · -- The targets lie over the browsers, so an entry is one of either.
    rcases Entries.mem_overlay hentry with hmem | hmem
    · exact (htargets hmem).imp_right .inl
    · obtain ⟨⟨name, n⟩, hname, rfl⟩ := List.mem_map.1 hmem
      rcases mem_keys_lowestFrom hlowest (Entries.mem_keys_of_mem hname) with hnone | hknown
      · exact absurd hnone List.not_mem_nil
      · have hshort := isTooLong_lowestFrom hlowest (fun _ h => absurd h List.not_mem_nil) _ hname
        exact .inr (.inr ⟨hknown, n, rfl, hshort⟩)

/-- The chrome version of an electron version is a value of the table. -/
theorem mem_of_chromeOfElectron {table : Entries Value} {version : String} {chrome : Value}
    (h : chromeOfElectron table version = .ok chrome) : ∃ key, (key, chrome) ∈ table := by
  unfold chromeOfElectron at h
  split at h
  · cases h
  · dsimp only at h
    split at h
    · cases h
    · cases h
    · rename_i hget
      exact ⟨_, Entries.mem_of_get? (hget.trans (congrArg some (Except.ok.inj h)))⟩

/-- No environment of a known browser is the key of a shorthand. -/
theorem notMem_shorthandKeys_of_browser :
    ∀ key ∈ browserEnvironments.map Prod.snd, key ∉ shorthandKeys := by
  decide

/-- Canonical targets of a specification that names no environment by a shorthand have no key of a
shorthand. -/
theorem resolveSpec_notMem_shorthandKeys
    (h : (normalizer.resolveSpec spec).result = .ok canonical)
    (hspec : ∀ key ∈ spec.environments.keys, key ∉ shorthandKeys) :
    ∀ entry ∈ canonical, entry.1 ∉ shorthandKeys := by
  intro entry hentry
  rcases mem_resolveSpec h hentry with ⟨c, hc, -⟩ | ⟨hchrome, -⟩ | ⟨hknown, -⟩
  · exact hspec _ (Entries.mem_keys_of_mem hc)
  · rw [hchrome]
    decide
  · exact notMem_shorthandKeys_of_browser _ hknown

/-- No environment has two targets after the second stage if none has two before it. -/
theorem nodup_electronStage {electron? : Option String} {targets next : CanonicalTargets}
    (h : (normalizer.electronStage electron? targets).result = .ok next)
    (hdistinct : targets.keys.Nodup) : next.keys.Nodup := by
  rcases electronStage_ok h with ⟨-, rfl⟩ | ⟨version, chrome, -, -, rfl⟩
  · exact hdistinct
  · exact Entries.nodup_insert hdistinct _ _

/-- No environment has two canonical targets if the specification names none twice. -/
theorem nodup_resolveSpec (h : (normalizer.resolveSpec spec).result = .ok canonical)
    (hdistinct : spec.environments.keys.Nodup) : canonical.keys.Nodup := by
  obtain ⟨direct, targets, hdirect, helectron, hbrowsers⟩ := resolveSpec_ok h
  have hnodup : direct.keys.Nodup := (direct_ok hdirect).1 ▸ hdistinct
  rcases browserStage_ok hbrowsers with ⟨-, rfl⟩ | ⟨_, releases, lowest, -, -, hlowest, rfl⟩
  · exact nodup_electronStage helectron hnodup
  · refine Entries.nodup_overlay ?_ targets
    rw [Entries.keys_map]
    exact nodup_lowestFrom hlowest List.nodup_nil

/-- A normalizer whose outside world answers with numbers: the values of its table of electron
versions, and the version of the running runtime if there is one. -/
structure Numeric (normalizer : Normalizer) : Prop where
  /-- Every chrome version of the table is a number. -/
  electron : ∀ entry ∈ normalizer.electron, ∃ n, Value.number? entry.2 = some n
  /-- The version of the running runtime is a number. -/
  nodeVersion : ∀ value, normalizer.nodeVersion.result = .ok value → ∃ n, value.number? = some n

/-- If the outside world answers with numbers, canonical targets are numbers. -/
theorem resolveSpec_numbers (h : (normalizer.resolveSpec spec).result = .ok canonical)
    (hnumeric : normalizer.Numeric) : ∀ entry ∈ canonical, ∃ n, Value.number? entry.2 = some n := by
  intro entry hentry
  rcases mem_resolveSpec h hentry with ⟨c, -, hversion⟩ | ⟨-, version, hchrome⟩ | ⟨-, n, hn, -⟩
  · cases c with
    | current => exact hnumeric.nodeVersion _ hversion
    | version x => exact ⟨.float x, by rw [← Except.ok.inj hversion]; rfl⟩
  · obtain ⟨key, hkey⟩ := mem_of_chromeOfElectron hchrome
    exact hnumeric.electron (key, entry.2) hkey
  · exact ⟨.int n, by rw [hn]; rfl⟩

/-- If the outside world answers with numbers, canonical targets are comparable. -/
theorem resolveSpec_comparable (h : (normalizer.resolveSpec spec).result = .ok canonical)
    (hspec : ∀ key ∈ spec.environments.keys, key ∉ shorthandKeys) (hnumeric : normalizer.Numeric) :
    Comparable canonical := fun entry hentry =>
  ⟨resolveSpec_notMem_shorthandKeys h hspec entry hentry,
    resolveSpec_numbers h hnumeric entry hentry⟩

/-! ## Browsers of the queries -/

/-- A browser that is named neither directly nor by an electron version has the least version of the
queries. -/
theorem resolveSpec_get?_of_browser (h : (normalizer.resolveSpec spec).result = .ok canonical)
    (hdistinct : spec.environments.keys.Nodup) {queries : List String}
    (hqueries : spec.browsers = some queries) {environment : String}
    (hdirect : environment ∉ spec.environments.keys)
    (helectron : environment = "chrome" → spec.electron = none) :
    ∃ releases lowest, normalizer.resolve queries = .ok releases ∧
      (lowestVersions releases).result = .ok lowest ∧
      canonical.get? environment = (lowest.get? environment).map Value.int := by
  obtain ⟨direct, targets, hstage, hchrome, hbrowsers⟩ := resolveSpec_ok h
  have hkeys := (direct_ok hstage).1
  have hnone : direct.get? environment = none :=
    (Entries.get?_eq_none_iff direct environment).2 (hkeys ▸ hdirect)
  have hnodup : targets.keys.Nodup := nodup_electronStage hchrome (hkeys ▸ hdistinct)
  -- Neither of the first two stages gives the environment a version, so the third one does.
  have htargets : targets.get? environment = none := by
    rcases electronStage_ok hchrome with ⟨-, rfl⟩ | ⟨version, chrome, hgiven, -, rfl⟩
    · exact hnone
    · have hother : "chrome" ≠ environment := by
        intro heq
        rw [helectron heq.symm] at hgiven
        cases hgiven
      rw [Entries.get?_insert, if_neg hother, hnone]
  rcases browserStage_ok hbrowsers with ⟨hmissing, -⟩ | ⟨_, releases, lowest, hgiven, hreleases,
    hlowest, rfl⟩
  · rw [hqueries] at hmissing
    cases hmissing
  · obtain rfl := Option.some.inj (hqueries.symm.trans hgiven)
    refine ⟨releases, lowest, hreleases, hlowest, ?_⟩
    rw [Entries.get?_overlay _ hnodup, htargets, Option.none_or, Entries.get?_map]

/-! ## Failures -/

/-- The failures of resolution: those of versions, and those of the outside world. -/
def ResolutionFailure (normalizer : Normalizer) (failure : Failure) : Prop :=
  failure.OfKind [.malformedVersion, .unsupportedVersion, .value] ∨
    normalizer.nodeVersion.result = .error failure ∨
    ∃ queries, normalizer.resolve queries = .error failure

/-- Naming environments directly fails only as asking for the running version does. -/
theorem direct_failsWith (normalizer : Normalizer) (environments : Entries Constraint) :
    FailsWith normalizer.ResolutionFailure (normalizer.direct environments).result := by
  induction environments with
  | nil => exact failsWith_ok _
  | cons first rest ih =>
    refine Traced.failsWith_bind ?_ fun _ _ =>
      Traced.failsWith_bind ih fun _ _ => failsWith_ok _
    cases first.2 with
    | current => exact fun failure h => .inr (.inl h)
    | version x => exact failsWith_ok _

/-- An electron version is malformed or unsupported, or it has a chrome version. -/
theorem withElectron_failsWith (normalizer : Normalizer) (targets : CanonicalTargets)
    (version : String) :
    FailsWith normalizer.ResolutionFailure (normalizer.withElectron targets version).result := by
  refine Traced.failsWith_bind ?_ fun _ _ =>
    Traced.failsWith_bind (failsWith_ok _) fun _ _ => failsWith_ok _
  rw [Traced.of_result]
  unfold chromeOfElectron
  split
  · exact failsWith_error (.inl (by decide))
  · dsimp only
    split
    · exact failsWith_error (.inl (Failure.ofKind_of_eq .unsupportedVersion rfl (by decide)))
    · exact failsWith_error (.inl (Failure.ofKind_of_eq .unsupportedVersion rfl (by decide)))
    · exact failsWith_ok _

/-- Browser queries fail as the resolver does, or at a version of too many digits. -/
theorem withBrowsers_failsWith (normalizer : Normalizer) (targets : CanonicalTargets)
    (queries : List String) :
    FailsWith normalizer.ResolutionFailure (normalizer.withBrowsers targets queries).result := by
  refine Traced.failsWith_bind (failsWith_ok _) fun _ _ => Traced.failsWith_bind ?_ fun _ _ =>
    Traced.failsWith_bind ?_ fun _ _ =>
      Traced.failsWith_bind (failsWith_ok _) fun _ _ => failsWith_ok _
  · exact fun failure h => .inr (.inr ⟨queries, h⟩)
  · intro failure h
    exact .inl ((lowestFrom_failsWith _ _).widen (by decide) failure h)

/-- Resolution fails in few ways of its own. -/
theorem resolveSpec_failsWith (normalizer : Normalizer) (spec : TargetSpec) :
    FailsWith normalizer.ResolutionFailure (normalizer.resolveSpec spec).result := by
  rw [resolveSpec_eq]
  refine Traced.failsWith_bind (direct_failsWith normalizer _) fun _ _ =>
    Traced.failsWith_bind ?_ fun _ _ => ?_
  · unfold electronStage
    split
    · exact failsWith_ok _
    · exact withElectron_failsWith _ _ _
  · unfold browserStage
    split
    · exact failsWith_ok _
    · exact withBrowsers_failsWith _ _ _

/-! ## What can be written -/

/-- The versions of environments do not depend on what can be written. -/
theorem direct_withWriting (normalizer : Normalizer) (writing : Writing)
    (environments : Entries Constraint) :
    ({ normalizer with writing } : Normalizer).direct environments =
      normalizer.direct environments := by
  induction environments with
  | nil => rfl
  | cons entry rest ih =>
    obtain ⟨environment, constraint⟩ := entry
    rw [direct, direct, ih]
    cases constraint <;> rfl

/-- Neither do the canonical targets of a specification. -/
theorem resolveSpec_withWriting (normalizer : Normalizer) (writing : Writing) (spec : TargetSpec) :
    ({ normalizer with writing } : Normalizer).resolveSpec spec = normalizer.resolveSpec spec := by
  unfold resolveSpec
  rw [direct_withWriting]
  rfl

/-! ## Printed lines -/

/-- A constraint prints something only if it asks for the running version. -/
theorem versionOf_printsAmong (normalizer : Normalizer) (c : Constraint) :
    (normalizer.versionOf c).PrintsAmong normalizer.nodeVersion.lines := by
  cases c with
  | current => exact List.Subset.refl _
  | version x => exact (Traced.onlyLogs_pure _).silent.printsAmong _

/-- Environments named directly print no more than that. -/
theorem direct_printsAmong (normalizer : Normalizer) (environments : Entries Constraint) :
    (normalizer.direct environments).PrintsAmong normalizer.nodeVersion.lines := by
  induction environments with
  | nil => exact (Traced.onlyLogs_pure _).silent.printsAmong _
  | cons first rest ih =>
    exact (versionOf_printsAmong _ _).bind fun _ _ =>
      ih.bind fun _ _ => (Traced.onlyLogs_pure _).silent.printsAmong _

/-- An electron version is logged, and nothing else happens. -/
theorem withElectron_onlyLogs (normalizer : Normalizer) (targets : CanonicalTargets)
    (version : String) : (normalizer.withElectron targets version).OnlyLogs :=
  (Traced.onlyLogs_of _).bind fun _ _ =>
    (Traced.onlyLogs_log _ _ _).bind fun _ _ => Traced.onlyLogs_pure _

/-- So nothing else happens in the second stage. -/
theorem electronStage_onlyLogs (normalizer : Normalizer) (electron? : Option String)
    (targets : CanonicalTargets) : (normalizer.electronStage electron? targets).OnlyLogs := by
  unfold electronStage
  split
  · exact Traced.onlyLogs_pure _
  · exact withElectron_onlyLogs _ _ _

/-- Browser queries are asked and logged, not printed. -/
theorem withBrowsers_silent (normalizer : Normalizer) (targets : CanonicalTargets)
    (queries : List String) : (normalizer.withBrowsers targets queries).Silent :=
  (Traced.silent_query _).bind fun _ _ => (Traced.onlyLogs_of _).silent.bind fun _ _ =>
    (lowestFrom_onlyLogs _ _).silent.bind fun _ _ =>
      (Traced.onlyLogs_log _ _ _).silent.bind fun _ _ => (Traced.onlyLogs_pure _).silent

/-- Resolution prints nothing but what asking for the running version prints. -/
theorem resolveSpec_printsAmong (normalizer : Normalizer) (spec : TargetSpec) :
    (normalizer.resolveSpec spec).PrintsAmong normalizer.nodeVersion.lines := by
  rw [resolveSpec_eq]
  refine (direct_printsAmong normalizer _).bind fun direct _ =>
    ((electronStage_onlyLogs normalizer _ _).silent.printsAmong _).bind fun targets _ => ?_
  unfold browserStage
  split
  · exact (Traced.onlyLogs_pure _).silent.printsAmong _
  · exact (withBrowsers_silent _ _ _).printsAmong _

/-- Making targets canonical prints nothing but what asking for the running version prints. -/
theorem normalize_printsAmong (normalizer : Normalizer) (raw : Value) :
    (normalizer.normalize raw).PrintsAmong normalizer.nodeVersion.lines :=
  ((TargetSpec.read_onlyLogs _ raw).silent.printsAmong _).bind fun _ _ =>
    resolveSpec_printsAmong _ _

end Normalizer

end TransformPreset
