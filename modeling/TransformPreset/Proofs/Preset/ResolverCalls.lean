import TransformPreset.Proofs.Preset.Completion
import TransformPreset.Proofs.Preset.ReportOnce
import TransformPreset.Proofs.Target.Meaning

/-!
# Calls of the release resolver

A build makes its targets canonical once, and asks for their browser queries then. The canonical
targets come back to the normalizer with every question about a capability, and are made canonical
again if they ask for the running version, as any answer of the runtime may. That asks for nothing:
what stands under the key of the queries is no query then
(`Normalizer.queries?_eq_none_of_mem`). So the calls of a build are those of resolving its validated
targets (`Session.queries_build`), of which there is at most one (`Session.build_asksOnce`).
-/

namespace TransformPreset

/-! ## Resolution -/

namespace Normalizer

variable {normalizer : Normalizer} {spec : TargetSpec} {canonical : CanonicalTargets}

/-- What has to succeed before browser queries are asked: the running version is found, if some
environment is to have it, and an electron version has a chrome version. -/
structure ReachesQueries (normalizer : Normalizer) (spec : TargetSpec) : Prop where
  /-- The runtime has a version, if it is asked for it. -/
  current : ∀ environment, (environment, Constraint.current) ∈ spec.environments →
    ∃ version, normalizer.nodeVersion.result = .ok version
  /-- An electron version is in the table. -/
  electron : ∀ version, spec.electron = some version →
    ∃ chrome, chromeOfElectron normalizer.electron version = .ok chrome

/-- The first two stages of resolution. -/
def upperStages (normalizer : Normalizer) (spec : TargetSpec) : Traced CanonicalTargets :=
  normalizer.direct spec.environments >>= normalizer.electronStage spec.electron

/-- Resolution goes through the first two stages and then asks for the queries. -/
theorem resolveSpec_eq_upperStages (normalizer : Normalizer) (spec : TargetSpec) :
    normalizer.resolveSpec spec =
      normalizer.upperStages spec >>= normalizer.browserStage spec.browsers := by
  rw [resolveSpec_eq, upperStages, bind_assoc]

/-- The first two stages succeed exactly if the queries are reached. -/
theorem exists_upperStages_iff :
    (∃ upper, (normalizer.upperStages spec).result = .ok upper) ↔
      normalizer.ReachesQueries spec := by
  have hcurrent : (∀ entry ∈ spec.environments, ∃ version,
      (normalizer.versionOf entry.2).result = .ok version) ↔
        ∀ environment, (environment, Constraint.current) ∈ spec.environments →
          ∃ version, normalizer.nodeVersion.result = .ok version := by
    refine ⟨fun h environment hentry => h _ hentry, ?_⟩
    rintro h ⟨environment, c⟩ hentry
    cases c with
    | current => exact h environment hentry
    | version x => exact ⟨.float x, rfl⟩
  constructor
  · rintro ⟨upper, h⟩
    obtain ⟨direct, hdirect, hupper⟩ := Traced.bind_result_ok_iff.1 h
    exact ⟨hcurrent.1 ((exists_direct_iff normalizer _).1 ⟨direct, hdirect⟩),
      (exists_electronStage_iff normalizer _ direct).1 ⟨upper, hupper⟩⟩
  · rintro ⟨hnode, helectron⟩
    obtain ⟨direct, hdirect⟩ := (exists_direct_iff normalizer _).2 (hcurrent.2 hnode)
    obtain ⟨upper, hupper⟩ := (exists_electronStage_iff normalizer _ direct).2 helectron
    exact ⟨upper, Traced.bind_result_ok_iff.2 ⟨direct, hdirect, hupper⟩⟩

/-- Environments named directly ask for nothing, if the runtime does not. -/
theorem direct_asksNothing (hnode : normalizer.nodeVersion.AsksNothing)
    (environments : Entries Constraint) : (normalizer.direct environments).AsksNothing := by
  induction environments with
  | nil => exact (Traced.onlyLogs_pure _).asksNothing
  | cons first rest ih =>
    refine Traced.AsksNothing.bind ?_ fun _ _ =>
      ih.bind fun _ _ => (Traced.onlyLogs_pure _).asksNothing
    cases first.2 with
    | current => exact hnode
    | version x => exact (Traced.onlyLogs_pure _).asksNothing

/-- The first two stages ask for nothing. -/
theorem upperStages_asksNothing (hnode : normalizer.nodeVersion.AsksNothing) (spec : TargetSpec) :
    (normalizer.upperStages spec).AsksNothing :=
  (direct_asksNothing hnode _).bind fun _ _ => (electronStage_onlyLogs _ _ _).asksNothing

/-- The third stage asks for the queries, as they are, whatever the resolver answers. -/
theorem queries_browserStage (normalizer : Normalizer) (browsers? : Option (List String))
    (upper : CanonicalTargets) :
    (normalizer.browserStage browsers? upper).queries = browsers?.toList := by
  cases browsers? with
  | none => rfl
  | some queries =>
    exact Traced.queries_bind_of_asksNothing fun _ _ =>
      (Traced.onlyLogs_of _).asksNothing.bind fun _ _ =>
        (lowestFrom_onlyLogs _ _).asksNothing.bind fun _ _ =>
          (Traced.onlyLogs_log _ _ _).asksNothing.bind fun _ _ =>
            (Traced.onlyLogs_pure _).asksNothing

/-- Resolution asks for the queries of a specification, if it reaches them. -/
theorem queries_resolveSpec (hnode : normalizer.nodeVersion.AsksNothing)
    (h : normalizer.ReachesQueries spec) :
    (normalizer.resolveSpec spec).queries = spec.browsers.toList := by
  obtain ⟨upper, hupper⟩ := exists_upperStages_iff.2 h
  rw [resolveSpec_eq_upperStages, (upperStages_asksNothing hnode spec).queries_bind hupper,
    queries_browserStage]

/-- Resolution that fails before the queries asks for nothing. -/
theorem queries_resolveSpec_of_not_reaches (hnode : normalizer.nodeVersion.AsksNothing)
    (h : ¬normalizer.ReachesQueries spec) : (normalizer.resolveSpec spec).queries = [] := by
  rw [resolveSpec_eq_upperStages]
  cases hupper : (normalizer.upperStages spec).result with
  | ok upper => exact absurd (exists_upperStages_iff.1 ⟨upper, hupper⟩) h
  | error failure =>
    rw [Traced.bind_error hupper]
    exact (upperStages_asksNothing hnode spec).queries_eq_nil

/-- Resolution without queries asks for nothing. -/
theorem resolveSpec_asksNothing (hnode : normalizer.nodeVersion.AsksNothing)
    (hnone : spec.browsers = none) : (normalizer.resolveSpec spec).AsksNothing := by
  rw [resolveSpec_eq_upperStages, hnone]
  exact (upperStages_asksNothing hnode spec).bind fun _ _ => (Traced.onlyLogs_pure _).asksNothing

/-! ## Canonical targets once more -/

/-- Whether queries are kept apart from answers of the runtime: if a specification has the running
version under the key of the queries, then no answer is a query. -/
def KeepsQueriesApart (normalizer : Normalizer) (spec : TargetSpec) : Prop :=
  (browsersKey, Constraint.current) ∈ spec.environments →
    ∀ version, normalizer.nodeVersion.result = .ok version → version.queries? = none

/-- A specification that was read keeps them apart, whatever the runtime answers. -/
theorem keepsQueriesApart_of_isRead (normalizer : Normalizer) (h : spec.IsRead) :
    normalizer.KeepsQueriesApart spec := fun hmem =>
  absurd (by decide) (h.notMem_shorthandKeys (Entries.mem_keys_of_mem hmem))

/-- A number is not a query, so a runtime that answers with numbers keeps them apart for every
specification. -/
theorem Numeric.keepsQueriesApart (h : normalizer.Numeric) (spec : TargetSpec) :
    normalizer.KeepsQueriesApart spec := by
  intro _ version hversion
  obtain ⟨n, hn⟩ := h.nodeVersion version hversion
  cases version with
  | int => rfl
  | float => rfl
  | _ => cases hn

/-- Canonical targets hold no browser queries. -/
theorem queries?_eq_none_of_mem (h : (normalizer.resolveSpec spec).result = .ok canonical)
    (hspec : normalizer.KeepsQueriesApart spec) {value : Value}
    (hvalue : (browsersKey, value) ∈ canonical) : value.queries? = none := by
  rcases mem_resolveSpec h hvalue with ⟨c, hc, hversion⟩ | ⟨hchrome, -⟩ | ⟨hknown, -⟩
  · cases c with
    | current => exact hspec hc value hversion
    | version x =>
      obtain rfl : .float x = value := Except.ok.inj hversion
      rfl
  · exact absurd (show browsersKey = "chrome" from hchrome) (by decide)
  · exact absurd (show browsersKey ∈ browserEnvironments.map Prod.snd from hknown) (by decide)

/-- A table of targets without queries is read as a specification without queries. -/
theorem browsers_eq_none_of_readEntries {entries : Entries Value} {next : TargetSpec}
    {writing : Writing} (h : (spec.readEntries writing entries).result = .ok next)
    (hspec : spec.browsers = none)
    (hentries : ∀ value, (browsersKey, value) ∈ entries → value.queries? = none) :
    next.browsers = none := by
  induction entries generalizing spec with
  | nil =>
    obtain rfl := Except.ok.inj h
    exact hspec
  | cons entry rest ih =>
    obtain ⟨key, value⟩ := entry
    obtain ⟨mid, hmid, h⟩ := Traced.bind_result_ok_iff.1 h
    refine ih h ?_ fun later hlater => hentries later (List.mem_cons_of_mem _ hlater)
    rw [TargetSpec.readEntry_browsers hmid]
    split
    · rename_i hkey
      exact hentries value (hkey ▸ List.mem_cons_self)
    · exact hspec

/-- Canonical targets that are made canonical once more ask for nothing. -/
theorem normalize_asksNothing (hnode : normalizer.nodeVersion.AsksNothing)
    (h : (normalizer.resolveSpec spec).result = .ok canonical)
    (hspec : normalizer.KeepsQueriesApart spec) :
    (normalizer.normalize (.map canonical)).AsksNothing :=
  (TargetSpec.read_onlyLogs _ _).asksNothing.bind fun _ hread =>
    resolveSpec_asksNothing hnode
      (browsers_eq_none_of_readEntries hread rfl fun _ => queries?_eq_none_of_mem h hspec)

end Normalizer

/-! ## Builds -/

/-- Selection for canonical targets asks for nothing, if making them canonical once more does
not. -/
theorem selectRequired_asksNothing {normalizer : Normalizer} {canonical : CanonicalTargets}
    (hagain : (normalizer.normalize (.map canonical)).AsksNothing)
    (table : Entries (Entries Value)) :
    (selectRequired normalizer (.map canonical) table).AsksNothing := by
  induction table with
  | nil => exact (Traced.onlyLogs_pure _).asksNothing
  | cons entry rest ih =>
    refine Traced.AsksNothing.bind (Traced.AsksNothing.bind ?_ fun _ _ =>
      (Traced.onlyLogs_of _).asksNothing) fun _ _ => ih.bind fun _ _ =>
        (Traced.onlyLogs_pure _).asksNothing
    unfold comparableTargets
    dsimp only
    split
    · exact hagain
    · exact (Traced.onlyLogs_pure _).asksNothing

/-- The plan of validated options asks for what resolving their targets asks for. -/
theorem Plan.queries_ofOptions {tables : CapabilityTables} {normalizer : Normalizer}
    {options : PresetOptions} (hnode : normalizer.nodeVersion.AsksNothing)
    (hspec : normalizer.KeepsQueriesApart options.targets) :
    (ofOptions tables normalizer options).queries =
      (normalizer.resolveSpec options.targets).queries := by
  refine Traced.queries_bind_of_asksNothing fun targets htargets => ?_
  have hagain := Normalizer.normalize_asksNothing hnode htargets hspec
  refine (Traced.onlyLogs_log _ _ _).asksNothing.bind fun _ _ =>
    Traced.AsksNothing.bind ?transformations fun _ _ =>
      Traced.AsksNothing.bind ?polyfills fun _ _ => (Traced.onlyLogs_pure _).asksNothing
  case transformations =>
    exact (selectRequired_asksNothing hagain _).bind fun _ _ =>
      (composeTransformations_onlyLogs _ _ _).asksNothing
  case polyfills =>
    unfold selectPolyfills
    split
    · exact (selectRequired_asksNothing hagain _).bind fun _ _ =>
        (composePolyfills_onlyLogs _ _ _ _).asksNothing.bind fun _ _ =>
          (Traced.onlyLogs_pure _).asksNothing
    · exact (Traced.onlyLogs_pure _).asksNothing

namespace OptionsInput

variable {tables : CapabilityTables} {writing : Writing} {input : OptionsInput}
  {spec : TargetSpec}

/-- Whether options are valid and have these targets. -/
def Targets (tables : CapabilityTables) (writing : Writing) (input : OptionsInput)
    (spec : TargetSpec) : Prop :=
  ∃ options, (input.validate tables writing).result = .ok options ∧ options.targets = spec

/-- Options have targets in one way. -/
theorem Targets.unique {other : TargetSpec} (h : input.Targets tables writing spec)
    (h' : input.Targets tables writing other) : other = spec := by
  obtain ⟨options, hvalid, rfl⟩ := h
  obtain ⟨options', hvalid', rfl⟩ := h'
  obtain rfl := Except.ok.inj (hvalid.symm.trans hvalid')
  rfl

section

variable {given : Entries Value}

/-- Another option than that of the targets leaves the specification. -/
theorem spec?_insert_useBuiltIns (given : Entries Value) (asked : Bool) :
    (raw (.map (given.insert "use_built_ins" (.bool asked)))).spec? = (raw (.map given)).spec? := by
  have htargets : (given.insert "use_built_ins" (.bool asked)).get? "targets" =
      given.get? "targets" := by
    rw [Entries.get?_insert, if_neg (by decide)]
  unfold spec? Value.option?
  dsimp only
  rw [htargets]

/-- Whether polyfills are asked for leaves the validated targets. -/
theorem targets_insert_useBuiltIns (asked : Bool)
    (hbefore : ∃ before, readBool given "use_built_ins" = .ok before) :
    (raw (.map (given.insert "use_built_ins" (.bool asked)))).Targets tables writing spec ↔
      (raw (.map given)).Targets tables writing spec := by
  have hother : ∀ key, "use_built_ins" ≠ key →
      (given.insert "use_built_ins" (.bool asked)).get? key = given.get? key := fun key hkey => by
    rw [Entries.get?_insert, if_neg hkey]
  have hunknown : ((given.insert "use_built_ins" (.bool asked)).keys.filter fun key =>
      !optionKeys.contains key) = given.keys.filter fun key => !optionKeys.contains key := by
    rw [Entries.keys_insert]
    split
    · rfl
    · rw [List.filter_append]
      exact List.append_nil _
  have hnow : readBool (given.insert "use_built_ins" (.bool asked)) "use_built_ins" =
      .ok asked := by
    rw [readBool, Entries.get?_insert, if_pos rfl]
  obtain ⟨before, hbefore⟩ := hbefore
  unfold Targets validate
  simp only [PresetOptions.read_map, PresetOptions.readTable_ok_iff, hunknown]
  unfold readTargets readNames readModuleType
  rw [hother "targets" (by decide), hother "include" (by decide), hother "exclude" (by decide),
    hother "module_type" (by decide)]
  have hloose : readBool (given.insert "use_built_ins" (.bool asked)) "loose" =
      readBool given "loose" := by
    rw [readBool, readBool, hother "loose" (by decide)]
  have hdebug : readBool (given.insert "use_built_ins" (.bool asked)) "debug" =
      readBool given "debug" := by
    rw [readBool, readBool, hother "debug" (by decide)]
  rw [hloose, hdebug, hnow, hbefore]
  constructor
  · rintro ⟨options, ⟨hk, ht, hi, he, -, hrest⟩, rfl⟩
    exact ⟨{ options with useBuiltIns := before }, ⟨hk, ht, hi, he, rfl, hrest⟩, rfl⟩
  · rintro ⟨options, ⟨hk, ht, hi, he, -, hrest⟩, rfl⟩
    exact ⟨{ options with useBuiltIns := asked }, ⟨hk, ht, hi, he, rfl, hrest⟩, rfl⟩

end

end OptionsInput

namespace Session

variable {session : Session} {input : OptionsInput} {spec : TargetSpec}

/-- What announces a plan asks for nothing. -/
theorem announce_asksNothing (session : Session) (plan : Plan) :
    (session.announce plan).2.AsksNothing := by
  rw [announce_snd]
  split
  · exact (plan.printReport_onlyPrints session.tables session.writing).asksNothing
  · exact (Traced.onlyLogs_pure _).asksNothing

/-- A build asks for what making its plan asks for. -/
theorem queries_build_eq_make (session : Session) (input : OptionsInput) :
    (session.build input).2.queries =
      (Plan.make session.tables session.normalizer input).queries := by
  rw [build_snd]
  refine Traced.queries_bind_of_asksNothing fun plan _ =>
    (announce_asksNothing session plan).bind fun _ _ => ?_
  rw [← complete_snd]
  exact (complete_onlyLogs session plan).asksNothing

/-- Whether a specification that is given as such keeps browser queries apart from answers of the
runtime. -/
def KeepsQueriesApart (session : Session) (input : OptionsInput) : Prop :=
  ∀ spec, input.spec? = some spec → session.normalizer.KeepsQueriesApart spec

/-- The validated targets keep them apart, if those that are given as such do. -/
theorem KeepsQueriesApart.of_targets (hinput : session.KeepsQueriesApart input)
    (h : input.Targets session.tables session.writing spec) :
    session.normalizer.KeepsQueriesApart spec := by
  obtain ⟨options, hvalid, rfl⟩ := h
  exact (OptionsInput.isRead_or_spec? hvalid).elim
    (Normalizer.keepsQueriesApart_of_isRead session.normalizer) (hinput _)

/-- A build from valid options asks for what resolving their targets asks for. -/
theorem queries_build (hnode : session.nodeVersion.AsksNothing)
    (hinput : session.KeepsQueriesApart input)
    (h : input.Targets session.tables session.writing spec) :
    (session.build input).2.queries = (session.normalizer.resolveSpec spec).queries := by
  have hspec := hinput.of_targets h
  obtain ⟨options, hvalid, rfl⟩ := h
  rw [queries_build_eq_make, make_eq,
    (OptionsInput.validate_onlyLogs _ _ _).asksNothing.queries_bind hvalid]
  exact Plan.queries_ofOptions hnode hspec

/-- A build from invalid options asks for nothing. -/
theorem queries_build_of_invalid (h : ∀ spec, ¬input.Targets session.tables session.writing spec) :
    (session.build input).2.queries = [] := by
  rw [queries_build_eq_make, make_eq]
  cases hvalid : (input.validate session.tables session.writing).result with
  | ok options => exact absurd ⟨options, hvalid, rfl⟩ (h options.targets)
  | error failure =>
    rw [Traced.bind_error hvalid]
    exact (OptionsInput.validate_onlyLogs _ _ _).asksNothing.queries_eq_nil

/-- Whether a build is to ask the resolver for queries: the options are valid, their targets have
the queries, and everything before these can be resolved. -/
def Asks (session : Session) (input : OptionsInput) (queries : List String) : Prop :=
  ∃ spec, input.Targets session.tables session.writing spec ∧ spec.browsers = some queries ∧
    session.normalizer.ReachesQueries spec

/-- How a build calls the release resolver. -/
structure AsksOnce (session : Session) (input : OptionsInput) : Prop where
  /-- It calls it at most once. -/
  once : (session.build input).2.queries.length ≤ 1
  /-- It calls it once, with the validated queries as they are, exactly if it is to, whatever the
  resolver answers. -/
  asks : ∀ queries, (session.build input).2.queries = [queries] ↔ session.Asks input queries
  /-- The validated queries of a table of targets are what its entry holds: a text, or the texts of
  a list. -/
  given : ∀ options targets : Entries Value, input = .raw (.map options) →
    options.get? "targets" = some (.map targets) → targets.keys.Nodup →
      ∀ spec, input.Targets session.tables session.writing spec →
        spec.browsers = givenQueries? targets
  /-- The calls depend on the validated targets, the table of electron versions, and whether the
  runtime has a version, and on nothing else: not on the tables of capabilities, not on the other
  options, and not on which version it is. -/
  independent : ∀ (other : Session) (otherInput : OptionsInput),
    other.nodeVersion.AsksNothing → other.KeepsQueriesApart otherInput →
    (∀ spec, otherInput.Targets other.tables other.writing spec ↔
      input.Targets session.tables session.writing spec) →
    other.tables.electron = session.tables.electron →
    ((∃ version, other.nodeVersion.result = .ok version) ↔
      ∃ version, session.nodeVersion.result = .ok version) →
    (other.build otherInput).2.queries = (session.build input).2.queries
  /-- In particular they do not depend on whether polyfills are asked for. -/
  useBuiltIns : ∀ (options : Entries Value) (asked : Bool), input = .raw (.map options) →
    (∃ before, readBool options "use_built_ins" = .ok before) →
    (session.build (.raw (.map (options.insert "use_built_ins" (.bool asked))))).2.queries =
      (session.build input).2.queries

/-- A build is to ask for queries in one way. -/
theorem Asks.unique {queries others : List String} (h : session.Asks input queries)
    (h' : session.Asks input others) : others = queries := by
  obtain ⟨spec, hspec, hbrowsers, -⟩ := h
  obtain ⟨spec', hspec', hbrowsers', -⟩ := h'
  obtain rfl := hspec.unique hspec'
  exact Option.some.inj (hbrowsers'.symm.trans hbrowsers)

/-- A build asks for the queries that it is to ask for, or it is to ask for none and asks for
nothing. -/
theorem queries_build_cases (hnode : session.nodeVersion.AsksNothing)
    (hinput : session.KeepsQueriesApart input) :
    (∃ queries, session.Asks input queries ∧ (session.build input).2.queries = [queries]) ∨
      (∀ queries, ¬session.Asks input queries) ∧ (session.build input).2.queries = [] := by
  by_cases hvalid : ∃ spec, input.Targets session.tables session.writing spec
  · obtain ⟨spec, hspec⟩ := hvalid
    rw [queries_build hnode hinput hspec]
    by_cases hreaches : session.normalizer.ReachesQueries spec
    · rw [Normalizer.queries_resolveSpec hnode hreaches]
      cases hbrowsers : spec.browsers with
      | some queries => exact .inl ⟨queries, ⟨spec, hspec, hbrowsers, hreaches⟩, rfl⟩
      | none =>
        refine .inr ⟨fun queries hasks => ?_, rfl⟩
        obtain ⟨spec', hspec', hgiven, -⟩ := hasks
        rw [hspec.unique hspec', hbrowsers] at hgiven
        cases hgiven
    · rw [Normalizer.queries_resolveSpec_of_not_reaches hnode hreaches]
      refine .inr ⟨fun queries hasks => hreaches ?_, rfl⟩
      obtain ⟨spec', hspec', -, hreaches'⟩ := hasks
      rwa [hspec.unique hspec'] at hreaches'
  · rw [queries_build_of_invalid (not_exists.1 hvalid)]
    exact .inr ⟨fun queries ⟨spec, hspec, _⟩ => hvalid ⟨spec, hspec⟩, rfl⟩

/-- Builds that are to ask for the same ask for the same. -/
theorem queries_build_congr {other : Session} {otherInput : OptionsInput}
    (hnode : session.nodeVersion.AsksNothing) (hinput : session.KeepsQueriesApart input)
    (hnode' : other.nodeVersion.AsksNothing) (hinput' : other.KeepsQueriesApart otherInput)
    (h : ∀ queries, other.Asks otherInput queries ↔ session.Asks input queries) :
    (other.build otherInput).2.queries = (session.build input).2.queries := by
  rcases queries_build_cases hnode hinput with ⟨queries, hasks, heq⟩ | ⟨hnone, heq⟩
  · rcases queries_build_cases hnode' hinput' with ⟨others, hasks', heq'⟩ | ⟨hnone', -⟩
    · rw [heq, heq', hasks.unique ((h others).1 hasks')]
    · exact absurd ((h queries).2 hasks) (hnone' queries)
  · rcases queries_build_cases hnode' hinput' with ⟨others, hasks', -⟩ | ⟨-, heq'⟩
    · exact absurd ((h others).1 hasks') (hnone others)
    · rw [heq, heq']

/-- Browser queries are reached alike if the tables of electron versions are the same and the
runtimes both have a version or both have none. -/
theorem reachesQueries_iff {other : Session}
    (helectron : other.tables.electron = session.tables.electron)
    (hnode : (∃ version, other.nodeVersion.result = .ok version) ↔
      ∃ version, session.nodeVersion.result = .ok version) :
    other.normalizer.ReachesQueries spec ↔ session.normalizer.ReachesQueries spec := by
  constructor
  · rintro ⟨hcurrent, hchrome⟩
    refine ⟨fun environment hmem => hnode.1 (hcurrent environment hmem), fun version hversion => ?_⟩
    obtain ⟨chrome, h⟩ := hchrome version hversion
    exact ⟨chrome, (congrArg (chromeOfElectron · version) helectron).symm.trans h⟩
  · rintro ⟨hcurrent, hchrome⟩
    refine ⟨fun environment hmem => hnode.2 (hcurrent environment hmem), fun version hversion => ?_⟩
    obtain ⟨chrome, h⟩ := hchrome version hversion
    exact ⟨chrome, (congrArg (chromeOfElectron · version) helectron).trans h⟩

/-- A build calls the release resolver at most once, and once exactly if it comes to the browser
queries of its validated targets.

The runtime is asked for its version without calls of the resolver. It may answer with anything, if
targets are given as a table. A specification put together by hand could ask for the running version
under the key of the queries, and a runtime that answers with a text would be taken to ask for
browsers with every capability (`build_asksAgain`); there the answer is to be no query, as no number
is. -/
theorem build_asksOnce (session : Session) (hnode : session.nodeVersion.AsksNothing)
    (input : OptionsInput) (hinput : session.KeepsQueriesApart input) : session.AsksOnce input where
  once := by
    rcases queries_build_cases hnode hinput with ⟨queries, -, heq⟩ | ⟨-, heq⟩
    · exact heq ▸ Nat.le_refl 1
    · exact heq ▸ Nat.zero_le 1
  asks queries := by
    rcases queries_build_cases hnode hinput with ⟨asked, hasks, heq⟩ | ⟨hnone, heq⟩
    · rw [heq, List.singleton_inj]
      exact ⟨fun hsame => hsame ▸ hasks, fun hgiven => hgiven.unique hasks⟩
    · rw [heq]
      exact ⟨fun h => absurd h.symm (List.cons_ne_nil _ _), fun h => absurd h (hnone queries)⟩
  given := by
    rintro options targets rfl htargets hdistinct spec ⟨validated, hvalid, rfl⟩
    have hread := OptionsInput.readTargets_of_validate hvalid
    rw [PresetOptions.readTargets_map htargets] at hread
    exact (TargetSpec.read_givenBy hread hdistinct).browsers
  independent other otherInput hnode' hinput' htargets helectron hversion :=
    queries_build_congr hnode hinput hnode' hinput' fun queries =>
      exists_congr fun spec => and_congr (htargets spec)
        (and_congr_right fun _ => reachesQueries_iff helectron hversion)
  useBuiltIns := by
    rintro options asked rfl hbefore
    refine queries_build_congr hnode hinput hnode ?_ fun queries =>
      exists_congr fun spec => and_congr_left fun _ =>
        OptionsInput.targets_insert_useBuiltIns asked hbefore
    exact fun spec hspec => hinput spec
      ((OptionsInput.spec?_insert_useBuiltIns options asked).symm.trans hspec)

/-- Options for a runtime, an electron version and two browsers. -/
def askingOptions : Entries Value :=
  [("targets", .map [("node", .text "current"), ("electron", .text "1.4"),
    ("browsers", .list [.text "Chrome 50", .text "ie 11, Safari 9"])])]

/-- The targets of these options. -/
def askingTargets : TargetSpec where
  environments := [("node", .current)]
  electron := some "1.4"
  browsers := some ["Chrome 50", "ie 11, Safari 9"]

/-- A shipped session asks for the queries of a list as they are, once. -/
theorem shipped_asksOnce :
    ((shipped 18).build (.raw (.map askingOptions))).2.queries =
      [["Chrome 50", "ie 11, Safari 9"]] := by
  have honce := build_asksOnce (shipped 18) (Traced.onlyLogs_pure _).asksNothing
    (.raw (.map askingOptions)) fun spec _ => (shipped_numeric 18).keepsQueriesApart spec
  refine (honce.asks _).2 ⟨askingTargets, ⟨_, rfl, rfl⟩, rfl, ?_, ?_⟩
  · exact fun _ _ => ⟨_, rfl⟩
  · rintro version ⟨⟩
    exact exists_ok_of_isSome (by decide +kernel)

/-- A session with two capabilities, whose runtime answers with a text. -/
def textRuntime : Session where
  tables :=
    { plugins := [("transform-a", []), ("transform-b", [])]
      builtIns := []
      electron := []
      modules := []
      defaultInclude := [] }
  nodeVersion := pure (.text "ie 9")

/-- A specification may ask for the running version under the key of the queries. A runtime that
answers with a text has browsers asked for with each of the capabilities. -/
theorem build_asksAgain :
    (textRuntime.build (.raw (.map [("targets",
      .spec { environments := [(browsersKey, .current)] })]))).2.queries =
        [["ie 9"], ["ie 9"]] := by
  decide +kernel

end Session

end TransformPreset
