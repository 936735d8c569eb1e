import TransformPreset.Proofs.Preset.Building
import TransformPreset.Proofs.Target.Given
import TransformPreset.Proofs.Target.LeastVersion

/-!
# The meaning of a table of targets

Three sources give an environment a version: an electron version gives chrome one, an entry gives
one directly, and browser queries give one by the least version among their releases. `target?` says
which of them counts, `targetOrder` in which order the environments come, and `Resolvable` when
there is an answer at all. A table of targets becomes canonical exactly if it is resolvable, and
then means what these three say (`normalize_means`). They look entries up, so a table in another
order becomes canonical as well, and gives every environment the same version.
-/

namespace TransformPreset

namespace Normalizer

variable {normalizer : Normalizer} {targets : Entries Value} {canonical : CanonicalTargets}

/-! ## The three sources -/

/-- The version that an entry gives its environment: the answer of the running runtime, if that is
asked for, and otherwise its number as a binary64 one. -/
def directVersion? (normalizer : Normalizer) (environment : String) (value : Value) :
    Option Value :=
  if environment = nodeKey ∧ asksCurrent value then normalizer.nodeVersion.result.toOption
  else value.number?.bind fun n => n.toFloat.toOption.map Value.float

/-- The version of an environment that is named directly. -/
def directTarget? (normalizer : Normalizer) (targets : Entries Value) (environment : String) :
    Option Value :=
  if environment ∈ shorthandKeys then none
  else (targets.get? environment).bind (normalizer.directVersion? environment)

/-- The chrome version that the table of electron versions has for a value. -/
def chromeVersion? (normalizer : Normalizer) (value : Value) : Option Value :=
  match readElectron normalizer.writing value with
  | .ok (some version) => (chromeOfElectron normalizer.electron version).toOption
  | _ => none

/-- The version that an electron version gives an environment, which has to be chrome. -/
def electronTarget? (normalizer : Normalizer) (targets : Entries Value) (environment : String) :
    Option Value :=
  if environment = "chrome" then (givenElectron? targets).bind normalizer.chromeVersion? else none

/-- The releases that the queries of a table of targets resolve to; without queries there are
none. -/
def givenReleases (normalizer : Normalizer) (targets : Entries Value) : List String :=
  match givenQueries? targets with
  | none => []
  | some queries => (normalizer.resolve queries).toOption.getD []

/-- The least version that browser queries give an environment. -/
def browserTarget? (normalizer : Normalizer) (targets : Entries Value) (environment : String) :
    Option Value :=
  (minVersion? (normalizer.givenReleases targets) environment).map Value.int

/-- The version of an environment: an electron version comes before what is named directly, and that
before browser queries. -/
def target? (normalizer : Normalizer) (targets : Entries Value) (environment : String) :
    Option Value :=
  ((normalizer.electronTarget? targets environment).or
    (normalizer.directTarget? targets environment)).or
      (normalizer.browserTarget? targets environment)

/-- The environments of browser queries, each at its first place. -/
def browserKeys (normalizer : Normalizer) (targets : Entries Value) : List String :=
  distinct ((namedVersions (normalizer.givenReleases targets)).map Prod.fst)

/-- The environments that are named directly or by an electron version: chrome stands at its place
if it is named directly, and comes last if it is not. -/
def upperKeys (targets : Entries Value) : List String :=
  if (givenElectron? targets).isSome ∧ "chrome" ∉ directKeys targets then
    directKeys targets ++ ["chrome"]
  else directKeys targets

/-- The order of the environments: those of browser queries come first, then the remaining ones. -/
def targetOrder (normalizer : Normalizer) (targets : Entries Value) : List String :=
  normalizer.browserKeys targets ++
    (upperKeys targets).filter fun key => key ∉ normalizer.browserKeys targets

/-- Whether a table of targets can become canonical. -/
structure Resolvable (normalizer : Normalizer) (targets : Entries Value) : Prop where
  /-- Each environment that is named directly has a version. -/
  direct : ∀ environment value, environment ∉ shorthandKeys →
    targets.get? environment = some value →
      (normalizer.directVersion? environment value).isSome
  /-- An electron version that is given has a chrome version. -/
  electron : ∀ value, givenElectron? targets = some value →
    (normalizer.chromeVersion? value).isSome
  /-- Queries that are given resolve to releases whose versions can be read. -/
  browsers : ∀ queries, givenQueries? targets = some queries →
    ∃ releases, normalizer.resolve queries = .ok releases ∧
      ∀ release ∈ releases, Release.Readable release
  /-- Browsers that hold no queries can be warned of. -/
  warning : ∀ value, targets.get? browsersKey = some value →
    ¬TooDeepToWarn normalizer.writing value

/-- What canonical targets are to mean for a table of targets. -/
structure Means (normalizer : Normalizer) (targets : Entries Value) (canonical : CanonicalTargets) :
    Prop where
  /-- Each environment has the version of the first source that gives it one. -/
  get? : ∀ environment, canonical.get? environment = normalizer.target? targets environment
  /-- The environments are those that are named directly, chrome if an electron version is given,
  and those of the browser queries. -/
  mem_keys : ∀ environment, environment ∈ canonical.keys ↔
    environment ∈ targets.keys ∧ environment ∉ shorthandKeys ∨
      environment = "chrome" ∧ (givenElectron? targets).isSome ∨
      environment ∈ normalizer.browserKeys targets
  /-- No environment has the key of a shorthand. -/
  notMem : ∀ key ∈ shorthandKeys, key ∉ canonical.keys
  /-- No environment comes twice. -/
  nodup : canonical.keys.Nodup
  /-- The environments come in their order. -/
  keys : canonical.keys = normalizer.targetOrder targets

/-! ## Directly named environments -/

/-- What an entry gives its environment is the version that its constraint asks for. -/
theorem directVersion?_eq (normalizer : Normalizer) (environment : String) (value : Value) :
    normalizer.directVersion? environment value =
      (readConstraint normalizer.writing environment value).toOption.bind fun c =>
        (normalizer.versionOf c).result.toOption := by
  unfold directVersion? readConstraint
  by_cases hcurrent : environment = nodeKey ∧ asksCurrent value
  · rw [if_pos hcurrent, if_pos hcurrent]
    rfl
  · rw [if_neg hcurrent, if_neg hcurrent]
    cases value.number? with
    | none => rfl
    | some n =>
      rw [Option.bind_some]
      dsimp only
      cases n.toFloat <;> rfl

/-- An environment that is named directly has the version that its constraint asks for. -/
theorem get?_direct {environments : Entries Constraint} {direct : CanonicalTargets}
    (h : (normalizer.direct environments).result = .ok direct) (key : String) :
    direct.get? key =
      (environments.get? key).bind fun c => (normalizer.versionOf c).result.toOption := by
  induction environments generalizing direct with
  | nil =>
    rw [← Except.ok.inj h]
    rfl
  | cons first rest ih =>
    obtain ⟨environment, c⟩ := first
    obtain ⟨version, hversion, h⟩ := Traced.bind_result_ok_iff.1 h
    obtain ⟨others, hothers, h⟩ := Traced.bind_result_ok_iff.1 h
    rw [← Except.ok.inj h, Entries.get?_cons, Entries.get?_cons, ih hothers]
    split
    · rw [Option.bind_some, hversion]
      rfl
    · rfl

/-- The environments named directly have versions exactly if each constraint has one. -/
theorem exists_direct_iff (normalizer : Normalizer) (environments : Entries Constraint) :
    (∃ direct, (normalizer.direct environments).result = .ok direct) ↔
      ∀ entry ∈ environments, ∃ version, (normalizer.versionOf entry.2).result = .ok version := by
  constructor
  · rintro ⟨direct, h⟩ ⟨environment, c⟩ hentry
    obtain ⟨version, hversion, -⟩ := mem_direct h hentry
    exact ⟨version, hversion⟩
  · intro h
    induction environments with
    | nil => exact ⟨[], rfl⟩
    | cons first rest ih =>
      obtain ⟨⟨version, hversion⟩, hrest⟩ := List.forall_mem_cons.1 h
      obtain ⟨others, hothers⟩ := ih hrest
      exact ⟨_, Traced.bind_result_ok_iff.2
        ⟨version, hversion, Traced.bind_result_ok_iff.2 ⟨others, hothers, rfl⟩⟩⟩

/-! ## Stages that succeed -/

/-- The second stage succeeds exactly if an electron version has a chrome version. -/
theorem exists_electronStage_iff (normalizer : Normalizer) (electron? : Option String)
    (direct : CanonicalTargets) :
    (∃ next, (normalizer.electronStage electron? direct).result = .ok next) ↔
      ∀ version, electron? = some version →
        ∃ chrome, chromeOfElectron normalizer.electron version = .ok chrome := by
  constructor
  · rintro ⟨next, h⟩ version rfl
    obtain ⟨chrome, hchrome, -⟩ := withElectron_ok h
    exact ⟨chrome, hchrome⟩
  · intro h
    cases electron? with
    | none => exact ⟨direct, rfl⟩
    | some version =>
      obtain ⟨chrome, hchrome⟩ := h version rfl
      exact ⟨_, Traced.bind_result_ok_iff.2
        ⟨chrome, hchrome, Traced.bind_result_ok_iff.2 ⟨(), rfl, rfl⟩⟩⟩

/-- The third stage succeeds exactly if queries resolve to releases whose versions can be read. -/
theorem exists_browserStage_iff (normalizer : Normalizer) (browsers? : Option (List String))
    (upper : CanonicalTargets) :
    (∃ next, (normalizer.browserStage browsers? upper).result = .ok next) ↔
      ∀ queries, browsers? = some queries →
        ∃ releases, normalizer.resolve queries = .ok releases ∧
          ∀ release ∈ releases, Release.Readable release := by
  constructor
  · rintro ⟨next, h⟩ queries rfl
    obtain ⟨releases, lowest, hreleases, hlowest, -⟩ := withBrowsers_ok h
    exact ⟨releases, hreleases, (lowestVersions_ok_iff.1 hlowest).1⟩
  · intro h
    cases browsers? with
    | none => exact ⟨upper, rfl⟩
    | some queries =>
      obtain ⟨releases, hreleases, hreadable⟩ := h queries rfl
      have hlowest := lowestVersions_ok_iff.2 ⟨hreadable, rfl⟩
      exact ⟨_, Traced.bind_result_ok_iff.2 ⟨(), rfl, Traced.bind_result_ok_iff.2
        ⟨releases, hreleases, Traced.bind_result_ok_iff.2
          ⟨_, hlowest, Traced.bind_result_ok_iff.2 ⟨(), rfl, rfl⟩⟩⟩⟩⟩

/-- A specification resolves exactly if each of its three parts does. -/
theorem exists_resolveSpec_iff (normalizer : Normalizer) (spec : TargetSpec) :
    (∃ canonical, (normalizer.resolveSpec spec).result = .ok canonical) ↔
      (∀ entry ∈ spec.environments,
        ∃ version, (normalizer.versionOf entry.2).result = .ok version) ∧
      (∀ version, spec.electron = some version →
        ∃ chrome, chromeOfElectron normalizer.electron version = .ok chrome) ∧
      ∀ queries, spec.browsers = some queries →
        ∃ releases, normalizer.resolve queries = .ok releases ∧
          ∀ release ∈ releases, Release.Readable release := by
  rw [← exists_direct_iff]
  constructor
  · rintro ⟨canonical, h⟩
    obtain ⟨direct, upper, hdirect, helectron, hbrowsers⟩ := resolveSpec_ok h
    exact ⟨⟨direct, hdirect⟩, (exists_electronStage_iff _ _ direct).1 ⟨upper, helectron⟩,
      (exists_browserStage_iff _ _ upper).1 ⟨canonical, hbrowsers⟩⟩
  · rintro ⟨⟨direct, hdirect⟩, helectron, hbrowsers⟩
    obtain ⟨upper, hupper⟩ := (exists_electronStage_iff _ _ direct).2 helectron
    obtain ⟨canonical, hcanonical⟩ := (exists_browserStage_iff _ _ upper).2 hbrowsers
    refine ⟨canonical, ?_⟩
    rw [resolveSpec_eq]
    exact Traced.bind_result_ok_iff.2
      ⟨direct, hdirect, Traced.bind_result_ok_iff.2 ⟨upper, hupper, hcanonical⟩⟩

/-! ## Tables that become canonical -/

/-- A value that is read as an electron version, and does not stand for none, has the chrome version
of its text. -/
theorem chromeVersion?_eq {value : Value} {version : String}
    (h : readElectron normalizer.writing value = .ok (some version)) :
    normalizer.chromeVersion? value = (chromeOfElectron normalizer.electron version).toOption := by
  rw [chromeVersion?, h]

/-- An outcome has a value exactly if it is a success. -/
theorem isSome_toOption_iff {α : Type} {x : Except Failure α} :
    x.toOption.isSome = true ↔ ∃ a, x = .ok a :=
  ⟨exists_ok_of_isSome, fun ⟨_, h⟩ => h ▸ rfl⟩

/-- A table of targets that becomes canonical is resolvable. -/
theorem resolvable_of_normalize (hdistinct : targets.keys.Nodup)
    (h : (normalizer.normalize (.map targets)).result = .ok canonical) :
    normalizer.Resolvable targets := by
  obtain ⟨spec, hread, hresolve⟩ := Traced.bind_result_ok_iff.1 h
  have hgiven := TargetSpec.read_givenBy hread hdistinct
  have hreadable := (TargetSpec.exists_read_iff normalizer.writing targets).1 ⟨spec, hread⟩
  obtain ⟨hdirect, helectron, hbrowsers⟩ :=
    (exists_resolveSpec_iff normalizer spec).1 ⟨canonical, hresolve⟩
  refine ⟨?direct, ?electron, fun queries hqueries =>
    hbrowsers queries (hgiven.browsers.trans hqueries), fun value hget =>
      (hreadable _ (Entries.mem_of_get? hget)).browsers rfl⟩
  case direct =>
    intro environment value hplain hget
    obtain ⟨c, hc, hfound⟩ := TargetSpec.environment_of_readEntries hread hdistinct hget hplain
    obtain ⟨version, hversion⟩ := hdirect _ (Entries.mem_of_get? hfound)
    rw [directVersion?_eq, hc]
    show ((normalizer.versionOf c).result.toOption).isSome = true
    exact isSome_toOption_iff.2 ⟨version, hversion⟩
  case electron =>
    intro value hvalue
    obtain ⟨version, hversion, hspec⟩ := hgiven.exists_electron hvalue
    rw [chromeVersion?_eq hversion]
    exact isSome_toOption_iff.2 (helectron version hspec)

namespace Resolvable

/-- Each entry of a resolvable table can be read by itself. -/
theorem entryReadable (h : normalizer.Resolvable targets) {key : String} {value : Value}
    (hget : targets.get? key = some value) : EntryReadable normalizer.writing key value where
  browsers hkey := h.warning value (hkey ▸ hget)
  electron := by
    rintro rfl
    -- A value that stands for none is read as none; any other one has a chrome version.
    cases hnone : value.standsForNone with
    | true => exact ⟨none, readElectron_of_standsForNone hnone⟩
    | false =>
      have hgiven : givenElectron? targets = some value := by
        rw [givenElectron?, hget, Option.filter_some, hnone]
        rfl
      have hsome := h.electron value hgiven
      unfold chromeVersion? at hsome
      split at hsome
      · rename_i version hversion
        exact ⟨some version, hversion⟩
      · cases hsome
  direct hplain := by
    have hsome := h.direct key value hplain hget
    rw [directVersion?_eq, Option.isSome_bind] at hsome
    cases hc : readConstraint normalizer.writing key value with
    | ok c => exact ⟨c, rfl⟩
    | error failure =>
      rw [hc] at hsome
      cases hsome

/-- Each constraint that a resolvable table gives has a version. -/
theorem exists_version (h : normalizer.Resolvable targets) {spec : TargetSpec}
    (hgiven : spec.GivenBy normalizer.writing targets) (hspec : spec.IsRead) {key : String}
    {c : Constraint}
    (hentry : (key, c) ∈ spec.environments) :
    ∃ version, (normalizer.versionOf c).result = .ok version := by
  have hplain : key ∉ shorthandKeys :=
    hspec.notMem_shorthandKeys (Entries.mem_keys_of_mem hentry)
  have hfound := hgiven.get? key
  rw [Entries.get?_of_mem hspec.nodup hentry, if_neg hplain] at hfound
  obtain ⟨value, hget, hc⟩ := Option.bind_eq_some_iff.1 hfound.symm
  have hsome := h.direct key value hplain hget
  rw [directVersion?_eq, hc] at hsome
  exact isSome_toOption_iff.1 hsome

/-- The electron version that a resolvable table gives has a chrome version. -/
theorem exists_chrome (h : normalizer.Resolvable targets) {spec : TargetSpec}
    (hgiven : spec.GivenBy normalizer.writing targets) {version : String}
    (hversion : spec.electron = some version) :
    ∃ chrome, chromeOfElectron normalizer.electron version = .ok chrome := by
  obtain ⟨value, hvalue, htext⟩ := hgiven.exists_givenElectron? hversion
  have hsome := h.electron value hvalue
  rw [chromeVersion?_eq htext] at hsome
  exact isSome_toOption_iff.1 hsome

end Resolvable

/-- A table of targets becomes canonical exactly if it is resolvable. -/
theorem exists_normalize_iff (normalizer : Normalizer) (hdistinct : targets.keys.Nodup) :
    (∃ canonical, (normalizer.normalize (.map targets)).result = .ok canonical) ↔
      normalizer.Resolvable targets := by
  refine ⟨fun ⟨canonical, h⟩ => resolvable_of_normalize hdistinct h, fun h => ?_⟩
  obtain ⟨spec, hread⟩ := (TargetSpec.exists_read_iff normalizer.writing targets).2 fun _ hentry =>
    h.entryReadable (Entries.get?_of_mem hdistinct hentry)
  have hgiven := TargetSpec.read_givenBy hread hdistinct
  obtain ⟨canonical, hcanonical⟩ := (exists_resolveSpec_iff normalizer spec).2
    ⟨fun _ hentry => h.exists_version hgiven ⟨normalizer.writing, targets, hread⟩ hentry,
      fun _ hversion => h.exists_chrome hgiven hversion,
      fun queries hqueries => h.browsers queries (hgiven.browsers.symm.trans hqueries)⟩
  exact ⟨canonical, Traced.bind_result_ok_iff.2 ⟨spec, hread, hcanonical⟩⟩

/-! ## What canonical targets mean -/

/-- What the first two stages give an environment. -/
theorem get?_upper {spec : TargetSpec} (hgiven : spec.GivenBy normalizer.writing targets)
    {direct upper : CanonicalTargets}
    (hdirect : (normalizer.direct spec.environments).result = .ok direct)
    (hupper : (normalizer.electronStage spec.electron direct).result = .ok upper)
    (environment : String) :
    upper.get? environment =
      (normalizer.electronTarget? targets environment).or
        (normalizer.directTarget? targets environment) := by
  have hnamed : direct.get? environment = normalizer.directTarget? targets environment := by
    rw [get?_direct hdirect, hgiven.get?, directTarget?]
    split
    · rfl
    · cases targets.get? environment with
      | none => rfl
      | some value =>
        rw [Option.bind_some, Option.bind_some, directVersion?_eq]
  unfold electronTarget?
  rcases electronStage_ok hupper with ⟨hnone, rfl⟩ | ⟨version, chrome, hsome, hchrome, rfl⟩
  · rw [hgiven.givenElectron?_eq_none hnone, hnamed, Option.bind_none, ite_self, Option.none_or]
  · obtain ⟨value, hvalue, htext⟩ := hgiven.exists_givenElectron? hsome
    -- An electron version replaces the version of chrome, and no other one.
    rw [hvalue, Entries.get?_insert, hnamed]
    by_cases hkey : "chrome" = environment
    · rw [if_pos hkey, if_pos hkey.symm, Option.bind_some, chromeVersion?_eq htext, hchrome]
      rfl
    · rw [if_neg hkey, if_neg (Ne.symm hkey), Option.none_or]

/-- The keys of the first two stages. -/
theorem keys_upper {spec : TargetSpec} (hgiven : spec.GivenBy normalizer.writing targets)
    {direct upper : CanonicalTargets}
    (hdirect : (normalizer.direct spec.environments).result = .ok direct)
    (hupper : (normalizer.electronStage spec.electron direct).result = .ok upper) :
    upper.keys = upperKeys targets := by
  have hkeys : direct.keys = directKeys targets := (direct_ok hdirect).1.trans hgiven.keys
  unfold upperKeys
  rcases electronStage_ok hupper with ⟨hnone, rfl⟩ | ⟨version, chrome, hsome, -, rfl⟩
  · rw [hgiven.givenElectron?_eq_none hnone, if_neg fun hadds => Bool.false_ne_true hadds.1, hkeys]
  · obtain ⟨value, hvalue, -⟩ := hgiven.exists_givenElectron? hsome
    rw [hvalue, Entries.keys_insert, hkeys]
    by_cases hmem : "chrome" ∈ directKeys targets <;> simp [hmem]

/-- What the third stage does to the first two: it adds the environments of the queries in front,
with their least versions. -/
theorem browserStage_means {spec : TargetSpec} (hgiven : spec.GivenBy normalizer.writing targets)
    {upper : CanonicalTargets} (hnodup : upper.keys.Nodup)
    (h : (normalizer.browserStage spec.browsers upper).result = .ok canonical) :
    (∀ environment, canonical.get? environment =
      (upper.get? environment).or (normalizer.browserTarget? targets environment)) ∧
    canonical.keys = normalizer.browserKeys targets ++
      upper.keys.filter fun key => key ∉ normalizer.browserKeys targets := by
  rcases browserStage_ok h with ⟨hnone, rfl⟩ | ⟨queries, releases, lowest, hsome, hreleases,
    hlowest, rfl⟩
  · have hgivenReleases : normalizer.givenReleases targets = [] := by
      rw [givenReleases, ← hgiven.browsers, hnone]
    rw [browserKeys, hgivenReleases]
    refine ⟨fun environment => ?_, ?_⟩
    · rw [browserTarget?, hgivenReleases]
      exact Option.or_none.symm
    · exact (List.filter_eq_self.2 fun key _ => decide_eq_true List.not_mem_nil).symm
  · have hgivenReleases : normalizer.givenReleases targets = releases := by
      rw [givenReleases, ← hgiven.browsers, hsome]
      show (normalizer.resolve queries).toOption.getD [] = releases
      rw [hreleases]
      rfl
    rw [browserKeys, hgivenReleases]
    obtain ⟨-, rfl⟩ := lowestVersions_ok_iff.1 hlowest
    refine ⟨fun environment => ?_, ?_⟩
    · rw [Entries.get?_overlay _ hnodup, Entries.get?_map, get?_leastVersions, browserTarget?,
        hgivenReleases]
    · rw [Entries.keys_overlay _ hnodup, Entries.keys_map, keys_leastVersions]

/-- Canonical targets mean what the sources of a table of targets give. -/
theorem means_of_normalize (hdistinct : targets.keys.Nodup)
    (h : (normalizer.normalize (.map targets)).result = .ok canonical) :
    normalizer.Means targets canonical := by
  obtain ⟨spec, hread, hresolve⟩ := Traced.bind_result_ok_iff.1 h
  have hspec : spec.IsRead := ⟨normalizer.writing, targets, hread⟩
  have hgiven := TargetSpec.read_givenBy hread hdistinct
  obtain ⟨direct, upper, hdirect, hupper, hcanonical⟩ := resolveSpec_ok hresolve
  have hnodup : upper.keys.Nodup :=
    nodup_electronStage hupper ((direct_ok hdirect).1 ▸ hspec.nodup)
  obtain ⟨hget, hkeys⟩ := browserStage_means hgiven hnodup hcanonical
  rw [keys_upper hgiven hdirect hupper] at hkeys
  refine
    { get? := fun environment => ?get?
      mem_keys := fun environment => ?mem_keys
      notMem := ?notMem
      nodup := nodup_resolveSpec hresolve hspec.nodup
      keys := hkeys }
  case get? =>
    rw [hget, get?_upper hgiven hdirect hupper]
    rfl
  case mem_keys =>
    have hupperKeys : environment ∈ upperKeys targets ↔
        environment ∈ directKeys targets ∨
          environment = "chrome" ∧ (givenElectron? targets).isSome := by
      unfold upperKeys
      split
      · rename_i hadds
        rw [List.mem_append, List.mem_singleton, and_iff_left hadds.1]
      · rename_i hadds
        -- Without an entry of its own, chrome is there already if an electron version is given.
        refine ⟨.inl, fun hmem => hmem.elim id ?_⟩
        rintro ⟨rfl, hsome⟩
        exact Decidable.not_not.1 fun habsent => hadds ⟨hsome, habsent⟩
    have hdirectKeys : environment ∈ directKeys targets ↔
        environment ∈ targets.keys ∧ environment ∉ shorthandKeys := by
      rw [directKeys, List.mem_filter, decide_eq_true_eq]
    rw [hkeys, List.mem_append, List.mem_filter, decide_eq_true_eq, hupperKeys, hdirectKeys]
    tauto
  case notMem =>
    intro key hkey hmem
    obtain ⟨entry, hentry, rfl⟩ := List.mem_map.1 hmem
    exact resolveSpec_notMem_shorthandKeys hresolve (fun _ => hspec.notMem_shorthandKeys) entry
      hentry hkey

/-! ## Tables in another order -/

/-- Which version an environment has is found by looking entries up alone. -/
theorem target?_congr {others : Entries Value} (normalizer : Normalizer)
    (h : ∀ key, others.get? key = targets.get? key) (environment : String) :
    normalizer.target? others environment = normalizer.target? targets environment := by
  unfold target? electronTarget? directTarget? browserTarget? givenReleases givenElectron?
    givenQueries?
  simp only [h]

/-- Whether a table is resolvable is found by looking entries up alone. -/
theorem Resolvable.congr {others : Entries Value} (hresolvable : normalizer.Resolvable targets)
    (h : ∀ key, others.get? key = targets.get? key) : normalizer.Resolvable others where
  direct environment value hplain hget :=
    hresolvable.direct environment value hplain ((h environment).symm.trans hget)
  electron value hvalue := by
    rw [givenElectron?, h] at hvalue
    exact hresolvable.electron value hvalue
  browsers queries hqueries := by
    rw [givenQueries?, h] at hqueries
    exact hresolvable.browsers queries hqueries
  warning value hget := hresolvable.warning value ((h browsersKey).symm.trans hget)

/-- A table of targets becomes canonical exactly if it is resolvable, and then means what its
sources give. A table with the same entries in another order becomes canonical exactly if the first
one does, and gives every environment the same version. -/
theorem normalize_means (normalizer : Normalizer) (targets : Entries Value)
    (hdistinct : targets.keys.Nodup) :
    ((∃ canonical, (normalizer.normalize (.map targets)).result = .ok canonical) ↔
      normalizer.Resolvable targets) ∧
    (∀ canonical, (normalizer.normalize (.map targets)).result = .ok canonical →
      normalizer.Means targets canonical) ∧
    ∀ reordered : Entries Value, targets.Perm reordered →
      ((∃ canonical, (normalizer.normalize (.map targets)).result = .ok canonical) ↔
        ∃ canonical, (normalizer.normalize (.map reordered)).result = .ok canonical) ∧
      ∀ canonical others, (normalizer.normalize (.map targets)).result = .ok canonical →
        (normalizer.normalize (.map reordered)).result = .ok others →
          ∀ environment, others.get? environment = canonical.get? environment := by
  refine ⟨exists_normalize_iff normalizer hdistinct, fun canonical => means_of_normalize hdistinct,
    fun reordered hperm => ?_⟩
  have hsame : ∀ key, reordered.get? key = targets.get? key := Entries.get?_perm hperm hdistinct
  have hreordered : reordered.keys.Nodup := (hperm.map Prod.fst).nodup_iff.1 hdistinct
  constructor
  · rw [exists_normalize_iff normalizer hdistinct, exists_normalize_iff normalizer hreordered]
    exact ⟨fun h => h.congr hsame, fun h => h.congr fun key => (hsame key).symm⟩
  · intro canonical others hcanonical hothers environment
    rw [(means_of_normalize hreordered hothers).get?,
      (means_of_normalize hdistinct hcanonical).get?, target?_congr normalizer hsame]

/-- A table that names chrome directly, by an electron version and by a browser query. -/
def chromeThrice : Entries Value :=
  [("node", .bool true), ("electron", .text "1.4"), ("chrome", .int 40),
    ("browsers", .text "Firefox 48, chrome 50, firefox 47")]

/-- The electron version gives chrome its version, which stands at the place of the query, and the
runtime comes last; in another order of the table the version is the same. -/
theorem shipped_normalize_means :
    ∃ canonical, ((Session.shipped 18).normalizer.normalize (.map chromeThrice)).result =
        .ok canonical ∧
      (Session.shipped 18).normalizer.Means chromeThrice canonical ∧
      canonical.keys = ["firefox", "chrome", "node"] ∧
      canonical.get? "chrome" = some (.float (.ofDecimal false 53 0)) ∧
      ∀ others, ((Session.shipped 18).normalizer.normalize (.map chromeThrice.reverse)).result =
        .ok others → others.get? "chrome" = some (.float (.ofDecimal false 53 0)) := by
  obtain ⟨-, hmeans, horder⟩ :=
    normalize_means (Session.shipped 18).normalizer chromeThrice (by decide)
  obtain ⟨canonical, hcanonical⟩ : ∃ canonical,
      ((Session.shipped 18).normalizer.normalize (.map chromeThrice)).result = .ok canonical :=
    exists_ok_of_isSome (by decide +kernel)
  have hmeant := hmeans canonical hcanonical
  have hchrome : canonical.get? "chrome" = some (.float (.ofDecimal false 53 0)) := by
    rw [hmeant.get?]
    rfl
  refine ⟨canonical, hcanonical, hmeant, ?_, hchrome, fun others hothers => ?_⟩
  · rw [hmeant.keys]
    decide +kernel
  · obtain ⟨-, hsame⟩ := horder chromeThrice.reverse (List.reverse_perm chromeThrice).symm
    rw [hsame canonical others hcanonical hothers, hchrome]

end Normalizer

end TransformPreset
