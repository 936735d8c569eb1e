import TransformPreset.Command.Run
import TransformPreset.Proofs.Preset.Completion
import TransformPreset.Proofs.Preset.ReportOnce
import TransformPreset.Proofs.Toml.Data

/-!
# What commands resolve and show

A command gathers its options, which never give a specification as targets
(`targets_of_gather`), and then either resolves the targets alone or builds a whole preset. The
session of a build is ready (`Host.ready_of_discover`), so nothing of a build can fail but the
reading of its options and the resolution of its targets (`Session.Ready.map_targets_build`). What
is resolved has a JSON form, and nothing is printed before it but the report on a preset.
-/

namespace TransformPreset

/-! ## Gathered options -/

namespace SettingsPlace

variable {place : SettingsPlace}

/-- Gathering options only writes log entries. -/
theorem gather_onlyLogs (place : SettingsPlace) (arguments : SettingsArguments) :
    (place.gather arguments).OnlyLogs := by
  refine (Traced.onlyLogs_of _).bind fun path? _ => Traced.OnlyLogs.bind ?_ fun lower _ =>
    (Traced.onlyLogs_of _).bind fun upper _ => Traced.onlyLogs_pure _
  unfold loadLayer
  split
  · exact Traced.onlyLogs_pure _
  · exact (Traced.onlyLogs_log _ _ _).bind fun _ _ => Traced.onlyLogs_of _

end SettingsPlace

/-- The options in a file are data if its reader answers with data. -/
theorem isData_loadSettings {reader : TableReader} {disk : Disk} {path : Path}
    {options : Entries Value} (hreader : ReadsData reader)
    (h : loadSettings reader disk path = .ok options) : (Value.map options).IsData := by
  have hfile : ∀ table, readTableFile reader disk path = .ok table → (Value.map table).IsData := by
    intro table htable
    unfold readTableFile at htable
    split at htable
    · exact hreader _ _ htable
    all_goals cases htable
  unfold loadSettings at h
  split at h
  · -- The options are a table two levels below that of the project file.
    obtain ⟨project?, hproject, h⟩ := except_bind_ok_iff.1 h
    obtain ⟨project, htable, hproject⟩ := except_bind_ok_iff.1 hproject
    cases project? with
    | none => cases h
    | some found =>
      rw [← Except.ok.inj h]
      unfold projectOptions? at hproject
      split at hproject
      · rename_i tool htool
        split at hproject
        · cases hproject
        · rename_i inner hinner
          rw [← Option.some.inj (Except.ok.inj hproject)]
          exact ((hfile _ htable).of_get? htool).of_get? hinner
        · cases hproject
      · cases hproject
  · exact hfile _ h

/-- Whether none of the given options is a target specification. -/
def SpareSpecs (options : Entries Value) : Prop :=
  ∀ option ∈ options, ∀ spec, option.2 ≠ .spec spec

/-- Options that are data are no specifications. -/
theorem spareSpecs_of_isData {options : Entries Value} (h : (Value.map options).IsData) :
    SpareSpecs options := by
  cases h with
  | map hoptions =>
    intro option hoption spec hspec
    have hdata := hoptions option hoption
    rw [hspec] at hdata
    cases hdata

/-- Options that are no specifications stay so under a layer of others. -/
theorem spareSpecs_layerOptions {lower upper : Entries Value} (hlower : SpareSpecs lower)
    (hupper : SpareSpecs upper) : SpareSpecs (layerOptions lower upper) := by
  induction upper generalizing lower with
  | nil => exact hlower
  | cons option rest ih =>
    obtain ⟨hoption, hrest⟩ := List.forall_mem_cons.1 hupper
    obtain ⟨key, value⟩ := option
    rw [layerOptions_cons]
    refine ih (fun entry hentry spec => ?_) hrest
    rcases Entries.mem_insert hentry with rfl | hold
    · dsimp only
      unfold layeredValue
      split
      · split
        · exact Value.noConfusion
        · exact hoption spec
      · exact hoption spec
    · exact hlower entry hold spec

/-- Two lists of options without a specification have none together. -/
theorem SpareSpecs.append {options others : Entries Value} (h : SpareSpecs options)
    (hothers : SpareSpecs others) : SpareSpecs (options ++ others) :=
  List.forall_mem_append.2 ⟨h, hothers⟩

/-- An option that is a list of names is no specification. -/
theorem spareSpecs_optionOfNames (key : String) (names : List String) :
    SpareSpecs (optionOfNames key names) := by
  unfold optionOfNames
  split
  · exact fun _ hoption => absurd hoption List.not_mem_nil
  · exact List.forall_mem_singleton.2 fun spec => Value.noConfusion

/-- An option that may be given is no specification if no value for it is. -/
theorem spareSpecs_optionIfGiven {α : Type} (key : String) {toValue : α → Value}
    (h : ∀ given spec, toValue given ≠ .spec spec) (given? : Option α) :
    SpareSpecs (optionIfGiven key (given?.map toValue)) := by
  cases given? with
  | none => exact fun _ hoption => absurd hoption List.not_mem_nil
  | some given => exact List.forall_mem_singleton.2 (h given)

/-- No option of a command line is a specification. -/
theorem spareSpecs_layer {arguments : SettingsArguments} {upper : Entries Value}
    (h : arguments.layer = .ok upper) : SpareSpecs upper := by
  obtain ⟨targets, htargets, h⟩ := except_bind_ok_iff.1 h
  have hspares : SpareSpecs targets := by
    unfold SettingsArguments.targetsOption at htargets
    split at htargets
    · rw [← Except.ok.inj htargets]
      exact fun _ hoption => absurd hoption List.not_mem_nil
    · obtain ⟨given, -, rfl⟩ := except_map_ok_iff.1 htargets
      exact List.forall_mem_singleton.2 fun spec => Value.noConfusion
  have hbool : ∀ (choice : Bool) (spec : TargetSpec), Value.bool choice ≠ .spec spec :=
    fun _ _ => Value.noConfusion
  have hmodule : ∀ (text : String) (spec : TargetSpec), moduleTypeValue text ≠ .spec spec := by
    intro text spec
    unfold moduleTypeValue
    split <;> exact Value.noConfusion
  rw [← Except.ok.inj h]
  exact hspares.append (spareSpecs_optionOfNames _ _) |>.append (spareSpecs_optionOfNames _ _)
    |>.append (spareSpecs_optionIfGiven _ hbool _) |>.append (spareSpecs_optionIfGiven _ hmodule _)
    |>.append (spareSpecs_optionIfGiven _ hbool _) |>.append (spareSpecs_optionIfGiven _ hbool _)

/-- Gathered options give no specification as their targets. -/
theorem targets_of_gather {place : SettingsPlace} (hreader : ReadsData place.reader)
    {arguments : SettingsArguments} {options : Entries Value}
    (h : (place.gather arguments).result = .ok options) (spec : TargetSpec) :
    options.get? targetsKey ≠ some (.spec spec) := by
  obtain ⟨path?, -, h⟩ := Traced.bind_result_ok_iff.1 h
  obtain ⟨lower, hlower, h⟩ := Traced.bind_result_ok_iff.1 h
  obtain ⟨upper, hupper, h⟩ := Traced.bind_result_ok_iff.1 h
  have hdata : (Value.map lower).IsData := by
    cases path? with
    | none =>
      rw [← Except.ok.inj hlower]
      exact Toml.isData_empty
    | some path =>
      obtain ⟨-, -, hlower⟩ := Traced.bind_result_ok_iff.1 hlower
      exact isData_loadSettings hreader hlower
  rw [← Except.ok.inj h]
  intro hspec
  exact spareSpecs_layerOptions (spareSpecs_of_isData hdata) (spareSpecs_layer hupper) _
    (Entries.mem_of_get? hspec) spec rfl

/-- The only target among the options is refused as its constraint is. -/
theorem PresetOptions.read_of_constraint {writing : Writing} {known? : Option (List String)}
    {environment : String} {value : Value} {failure : Failure}
    (hplain : environment ∉ shorthandKeys)
    (h : readConstraint writing environment value = .error failure) :
    (read writing known? (.map [(targetsKey, .map [(environment, value)])])).result =
      .error failure := by
  simp only [shorthandKeys, List.mem_cons, List.not_mem_nil, or_false, not_or] at hplain
  have hentry : (TargetSpec.readEntry writing {} environment value).result = .error failure := by
    unfold TargetSpec.readEntry
    rw [if_neg hplain.1, if_neg hplain.2]
    exact Traced.bind_result_error_iff.2 (.inl h)
  rw [read_map]
  -- The targets are read first, and the only entry among them fails.
  refine Traced.bind_result_error_iff.2 (.inl ?_)
  rw [readTargets_map rfl]
  exact Traced.bind_result_error_iff.2 (.inl hentry)

/-! ## Sessions of commands -/

/-- In a ready session the targets of a build that can report are those that its options resolve to,
and the build fails exactly as validating the options or resolving their targets does. -/
theorem Session.Ready.map_targets_build {session : Session} (h : session.Ready)
    {options : Entries Value}
    (hspec : ∀ spec, options.get? "targets" = some (.spec spec) →
      ∀ key ∈ spec.environments.keys, key ∉ shorthandKeys)
    (hreport : session.CanReport (.raw (.map options))) :
    (session.build (.raw (.map options))).2.result.map Preset.targets =
      (PresetOptions.read session.writing (some session.tables.knownNames) (.map options) >>=
        fun validated => session.normalizer.resolveSpec validated.targets).result := by
  cases hplan : (Plan.make session.tables session.normalizer (.raw (.map options))).result with
  | ok plan =>
    obtain ⟨preset, hbuild⟩ := h.exists_build hplan ((canReport_iff hplan).1 hreport)
    obtain ⟨validated, made, -, plugins, hvalid, hmade, -, -, -, rfl⟩ := build_ok hbuild
    rw [hbuild]
    exact (Traced.bind_result_ok_iff.2 ⟨validated, hvalid, hmade.targets⟩).symm
  | error failure =>
    have hcomparable : ∀ validated targets,
        ((OptionsInput.raw (.map options)).validate session.tables
          session.normalizer.writing).result = .ok validated →
        (session.normalizer.resolveSpec validated.targets).result = .ok targets →
        Comparable targets :=
      fun _ _ hread hresolve => h.comparable hspec hread hresolve
    rw [build_of_plan_error hplan]
    exact (Traced.bind_result_error_iff.2 ((Plan.make_error_iff hcomparable).1 hplan)).symm

/-- If the runtime is asked silently, making a plan prints nothing. -/
theorem Session.lines_make {session : Session} (hsilent : session.nodeVersion.Silent)
    (input : OptionsInput) :
    (Plan.make session.tables session.normalizer input).lines = [] := by
  have hamong := Plan.make_printsAmong session.tables session.normalizer input
  rw [show session.normalizer.nodeVersion.lines = [] from hsilent.lines_eq_nil] at hamong
  exact List.subset_nil.1 hamong

/-- If the runtime is asked silently, a build that succeeds prints nothing, or the report on its
targets. -/
theorem Session.lines_build_of_ok {session : Session} {input : OptionsInput} {preset : Preset}
    (hsilent : session.nodeVersion.Silent) (h : (session.build input).2.result = .ok preset) :
    (session.build input).2.lines = [] ∨ ∃ plan : Plan, plan.targets = preset.targets ∧
      plan.reportLines session.tables session.writing =
        (session.build input).2.lines.map .ok := by
  obtain ⟨plan, hplan, hreport, registry, plugins, -, -, rfl⟩ := build_ok_iff.1 h
  rw [lines_build, lines_make hsilent, List.nil_append, printed_of_plan_ok hplan, lines_announce]
  split
  · rename_i hprints
    rw [announce_snd, if_pos hprints, Plan.printReport_eq, printLines_ok_iff] at hreport
    obtain ⟨texts, htexts⟩ := exists_eq_map_ok hreport
    exact .inr ⟨plan, rfl, by rw [htexts, writtenLines_ok]⟩
  · exact .inl rfl

/-- In a ready session in which the runtime is asked silently, a build that can report prints
nothing if it fails. -/
theorem Session.Ready.lines_build_of_error {session : Session} (h : session.Ready)
    {options : Entries Value} {failure : Failure} (hsilent : session.nodeVersion.Silent)
    (hreport : session.CanReport (.raw (.map options)))
    (hfailure : (session.build (.raw (.map options))).2.result = .error failure) :
    (session.build (.raw (.map options))).2.lines = [] := by
  cases hplan : (Plan.make session.tables session.normalizer (.raw (.map options))).result with
  | ok plan =>
    obtain ⟨preset, hbuild⟩ := h.exists_build hplan ((canReport_iff hplan).1 hreport)
    cases hfailure.symm.trans hbuild
  | error other =>
    rw [build_of_plan_error hplan]
    exact lines_make hsilent _

namespace Host

variable {host : Host} {registry : Registry}

/-- Finding out the version of the runtime only writes log entries. -/
theorem nodeVersion_onlyLogs (host : Host) (given? : Option Registry) :
    (host.session given?).nodeVersion.OnlyLogs := by
  refine Traced.OnlyLogs.bind ?_ fun _ _ => Traced.onlyLogs_pure _
  unfold runtimeVersion
  split
  · exact Traced.onlyLogs_fail _
  · exact Traced.onlyLogs_fail _
  · exact Traced.onlyLogs_fail _
  · exact Traced.onlyLogs_fail _
  · refine (Traced.onlyLogs_of _).bind fun version? _ => ?_
    cases version? with
    | none => exact Traced.onlyLogs_fail _
    | some version => exact (Traced.onlyLogs_log _ _ _).bind fun _ _ => Traced.onlyLogs_pure _

/-- The outside world of a command answers with binary64 numbers. -/
theorem nodeVersion_float (host : Host) (given? : Option Registry) {value : Value}
    (h : (host.session given?).nodeVersion.result = .ok value) : ∃ x, value = .float x := by
  obtain ⟨x, -, h⟩ := Traced.bind_result_ok_iff.1 h
  exact ⟨x, (Except.ok.inj h).symm⟩

/-- So it answers with numbers that can be written. -/
theorem short (host : Host) (given? : Option Registry) :
    (host.session given?).normalizer.Short where
  numeric :=
    { electron := (Session.shipped_numeric 0).electron
      nodeVersion := fun value h => by
        obtain ⟨x, rfl⟩ := host.nodeVersion_float given? h
        exact ⟨.float x, rfl⟩ }
  electron := Session.shippedTables_electron_short
  nodeVersion value h := by
    obtain ⟨x, rfl⟩ := host.nodeVersion_float given? h
    rfl

/-- A build of a command does not ask for anything else. -/
theorem build_short (host : Host) (registry : Registry) :
    (host.buildSession registry).normalizer.Short :=
  (host.short (some registry)).withWriting host.writing.inner

/-- The report on a preset of a command can always be written. -/
theorem canReport (host : Host) (registry : Registry) (input : OptionsInput) :
    (host.buildSession registry).CanReport input :=
  Session.canReport_of_shippedTables rfl (host.build_short registry) input

/-- A session with a discovered registry is ready. -/
theorem ready_of_discover {bundles : List String} (h : host.discover bundles = .ok registry) :
    (host.buildSession registry).Ready where
  clean := CapabilityTables.shippedTables_cleanlyPartitioned
  modules := by rintro ⟨⟩ <;> rfl
  numeric := (host.build_short registry).numeric
  registry := ⟨registry, host.sources, bundles, [], h, rfl⟩

/-- Without entry points the units of the bundles are written over those of the tables. -/
theorem exists_ofTables (hsources : host.sources.entryPoints = []) (bundles : List String) :
    ∃ ofTables, Registry.complete (Registry.registerAll {} (builtInUnits shippedTables)) =
        .ok ofTables ∧
      host.discover bundles = ofTables.loadModuleBundles host.sources bundles := by
  obtain ⟨ofTables, htables⟩ : ∃ ofTables,
      Registry.complete (Registry.registerAll {} (builtInUnits shippedTables)) = .ok ofTables :=
    exists_ok_of_isSome (by decide +kernel)
  refine ⟨ofTables, htables, ?_⟩
  rw [discover, Registry.discover, htables, hsources]
  rfl

/-! ## What commands resolve -/

/-- A target that is refused as the only one among the options is refused by a command that shows
targets. -/
theorem resolveTargets_of_constraint {arguments : SettingsArguments} {environment : String}
    {value : Value} {failure : Failure}
    (hgather : (host.settings.gather arguments).result =
      .ok [(targetsKey, .map [(environment, value)])])
    (hplain : environment ∉ shorthandKeys)
    (h : readConstraint host.writing environment value = .error failure) :
    (host.resolveTargets arguments).result = .error failure :=
  Traced.bind_result_error_iff.2 (.inr ⟨_, hgather,
    Traced.bind_result_error_iff.2 (.inl (PresetOptions.read_of_constraint hplain h))⟩)

/-- Without entry points, so it is by a command that shows a preset. -/
theorem resolvePreset_of_constraint (hsources : host.sources.entryPoints = [])
    {arguments : SettingsArguments} {environment : String} {value : Value} {failure : Failure}
    (hgather : (host.settings.gather arguments).result =
      .ok [(targetsKey, .map [(environment, value)])])
    (hplain : environment ∉ shorthandKeys)
    (h : readConstraint host.writing.inner environment value = .error failure) :
    (host.resolvePreset arguments []).result = .error failure := by
  obtain ⟨registry, -, hdiscover⟩ := exists_ofTables hsources []
  have hregistry : (Traced.of (host.discover [])).result = .ok registry := hdiscover
  refine Traced.bind_result_error_iff.2 (.inr ⟨_, hgather, ?_⟩)
  refine Traced.bind_result_error_iff.2 (.inr ⟨registry, hregistry, ?_⟩)
  have hplan : (Plan.make (host.buildSession registry).tables
      (host.buildSession registry).normalizer
      (.raw (.map [(targetsKey, .map [(environment, value)])]))).result = .error failure :=
    Traced.bind_result_error_iff.2 (.inl (PresetOptions.read_of_constraint hplain h))
  rw [Session.build_of_plan_error hplan]

/-- Resolving targets prints nothing. -/
theorem lines_resolveTargets (host : Host) (arguments : SettingsArguments) :
    (host.resolveTargets arguments).lines = [] := by
  have hlines : (host.session none).normalizer.nodeVersion.lines = [] :=
    (host.nodeVersion_onlyLogs none).silent.lines_eq_nil
  have hamong : (host.resolveTargets arguments).PrintsAmong [] :=
    ((SettingsPlace.gather_onlyLogs _ _).silent.printsAmong _).bind fun options _ =>
      ((PresetOptions.read_onlyLogs _ _ _).silent.printsAmong _).bind fun validated _ =>
        hlines ▸ Normalizer.resolveSpec_printsAmong _ _
  exact List.subset_nil.1 hamong

/-- A command that resolves a preset prints nothing before it, or the report on its targets. -/
theorem lines_resolvePreset_of_ok {arguments : SettingsArguments} {preset : Preset}
    (h : (host.resolvePreset arguments []).result = .ok preset) :
    (host.resolvePreset arguments []).lines = [] ∨ ∃ plan : Plan, plan.targets = preset.targets ∧
      plan.reportLines shippedTables host.writing.inner =
        (host.resolvePreset arguments []).lines.map .ok := by
  obtain ⟨options, hgather, h⟩ := Traced.bind_result_ok_iff.1 h
  obtain ⟨registry, hregistry, h⟩ := Traced.bind_result_ok_iff.1 h
  have hlines : (host.resolvePreset arguments []).lines =
      ((host.buildSession registry).build (.raw (.map options))).2.lines :=
    ((SettingsPlace.gather_onlyLogs _ _).silent.lines_bind hgather).trans
      ((Traced.onlyLogs_of _).silent.lines_bind hregistry)
  rw [hlines]
  exact Session.lines_build_of_ok (host.nodeVersion_onlyLogs (some registry)).silent h

/-- A command that fails to resolve a preset prints nothing before. -/
theorem lines_resolvePreset_of_error {arguments : SettingsArguments} {bundles : List String}
    {failure : Failure} (h : (host.resolvePreset arguments bundles).result = .error failure) :
    (host.resolvePreset arguments bundles).lines = [] := by
  unfold resolvePreset at h ⊢
  cases hgather : (host.settings.gather arguments).result with
  | error other =>
    rw [Traced.bind_error hgather]
    exact (SettingsPlace.gather_onlyLogs _ _).silent.lines_eq_nil
  | ok options =>
    rw [(SettingsPlace.gather_onlyLogs _ _).silent.lines_bind hgather]
    cases hdiscover : (Traced.of (host.discover bundles)).result with
    | error other =>
      rw [Traced.bind_error hdiscover]
      rfl
    | ok registry =>
      rw [Traced.bind_ok hgather, Traced.bind_ok hdiscover] at h
      rw [(Traced.onlyLogs_of _).silent.lines_bind hdiscover]
      exact (ready_of_discover hdiscover).lines_build_of_error
        (host.nodeVersion_onlyLogs (some registry)).silent (host.canReport registry _) h

/-- Targets that a command resolves are numbers. -/
theorem numbers_resolveTargets {arguments : SettingsArguments} {canonical : CanonicalTargets}
    (h : (host.resolveTargets arguments).result = .ok canonical) :
    ∀ entry ∈ canonical, ∃ n, Value.number? entry.2 = some n := by
  obtain ⟨options, -, h⟩ := Traced.bind_result_ok_iff.1 h
  obtain ⟨validated, -, hresolve⟩ := Traced.bind_result_ok_iff.1 h
  exact Normalizer.resolveSpec_numbers hresolve (host.short none).numeric

/-- They have a JSON form. -/
theorem hasJson_resolveTargets {arguments : SettingsArguments} {canonical : CanonicalTargets}
    (h : (host.resolveTargets arguments).result = .ok canonical) (room : Nat) :
    (Value.map canonical).HasJson (room + 1) := by
  obtain ⟨options, -, hread⟩ := Traced.bind_result_ok_iff.1 h
  obtain ⟨validated, -, hresolve⟩ := Traced.bind_result_ok_iff.1 hread
  exact (Json.hasJson_map_iff fun entry hentry => .inr (numbers_resolveTargets h entry hentry)).2
    (Normalizer.resolveSpec_short hresolve (host.short none))

/-- So have the targets of a preset that a command resolves. -/
theorem hasJson_resolvePreset {arguments : SettingsArguments} {bundles : List String}
    {preset : Preset} (h : (host.resolvePreset arguments bundles).result = .ok preset)
    (room : Nat) : (Value.map preset.targets).HasJson (room + 1) := by
  obtain ⟨options, -, h⟩ := Traced.bind_result_ok_iff.1 h
  obtain ⟨registry, -, h⟩ := Traced.bind_result_ok_iff.1 h
  obtain ⟨validated, plan, -, plugins, -, hmade, -, -, -, rfl⟩ := Session.build_ok h
  have hshort := host.build_short registry
  exact (Json.hasJson_map_iff fun entry hentry =>
    .inr (Normalizer.resolveSpec_numbers hmade.targets hshort.numeric entry hentry)).2
    (Normalizer.resolveSpec_short hmade.targets hshort)

end Host

/-! ## What commands show -/

/-- An answer with a JSON form is written. -/
theorem exists_answerText {value : Value} (h : value.HasJson (answerLevels + 1)) :
    ∃ text, answerText value = .ok text :=
  Json.exists_write (Json.hasJson_sortKeys h) (Nat.le_refl _)

/-- The options of a unit have a JSON form. -/
theorem UnitOptions.hasJson_toValue (options : UnitOptions) : options.toValue.HasJson 2 := by
  cases options with
  | transformation loose => exact .map (List.forall_mem_singleton.2 (.bool loose))
  | polyfills names regenerator =>
    refine .map (List.forall_mem_cons.2 ⟨.list fun item hitem => ?_,
      List.forall_mem_singleton.2 (.bool regenerator)⟩)
    obtain ⟨name, -, rfl⟩ := List.mem_map.1 hitem
    exact .text name

/-- A preset whose targets have a JSON form has one. -/
theorem Preset.hasJson_toValue {preset : Preset} (h : (Value.map preset.targets).HasJson 4) :
    preset.toValue.HasJson 5 := by
  refine .map (List.forall_mem_cons.2 ⟨h, List.forall_mem_cons.2 ⟨?module,
    List.forall_mem_singleton.2 (.list fun item hitem => ?plugin)⟩⟩)
  case module =>
    cases preset.moduleType with
    | none => exact .null
    | some type => exact .text _
  case plugin =>
    obtain ⟨configured, -, rfl⟩ := List.mem_map.1 hitem
    exact .map (List.forall_mem_cons.2 ⟨.text _, List.forall_mem_cons.2 ⟨.text _,
      List.forall_mem_singleton.2 configured.options.hasJson_toValue⟩⟩)

/-- What is shown of a preset in JSON has what is shown of its targets as a member. -/
theorem Preset.exists_payload (preset : Preset) :
    ∃ payload : Entries Value, Json.sortKeys preset.toValue = .map payload ∧
      payload.get? "targets" = some (Json.sortKeys (.map preset.targets)) := by
  have hdistinct : ["targets", "module_type", "plugins"].Nodup := by decide
  unfold Preset.toValue
  refine (Json.exists_sortKeys_map ?distinct).imp fun payload h => ⟨h.1, (h.2 "targets").trans rfl⟩
  case distinct => exact hdistinct

namespace Command

variable {host : Host} {command : Command}

/-- A command whose answer can be shown shows it after the lines that it printed. -/
theorem run_of_ok {items : List ScreenItem} (least : LogLevel)
    (h : (command.work (host.logging least)).result = .ok (.ok items)) :
    ∃ log, command.run host least =
      { status := 0
        screen :=
          (command.work (host.logging least)).lines.flatMap host.console.printText ++ items
        log } := by
  unfold run
  dsimp only
  rw [h]
  exact ⟨_, rfl⟩

/-- A command that fails reports the failure, or lets it escape. -/
theorem run_of_error {failure : Failure} (least : LogLevel)
    (h : (command.work (host.logging least)).result = .error failure) :
    ∃ log, command.run host least =
      match command.report host.console failure with
      | .ok items =>
        { status := 1
          screen :=
            (command.work (host.logging least)).lines.flatMap host.console.printText ++ items
          log }
      | .error escaped =>
        { status := 1
          screen := (command.work (host.logging least)).lines.flatMap host.console.printText
          log
          escaped := some escaped } := by
  unfold run
  dsimp only
  rw [h]
  exact ⟨_, rfl⟩

/-- A command that shows targets prints what resolving them does. -/
theorem lines_work_targets (host : Host) (arguments : SettingsArguments) (json : Bool) :
    (work host (.targets arguments json)).lines = (host.resolveTargets arguments).lines :=
  Traced.lines_bind_of_silent fun _ _ => (Traced.onlyLogs_pure _).silent

/-- A command that shows a preset prints what resolving it does. -/
theorem lines_work_resolve (host : Host) (arguments : SettingsArguments) (bundles : List String)
    (json : Bool) : (work host (.resolve arguments bundles json)).lines =
      (host.resolvePreset arguments bundles).lines :=
  Traced.lines_bind_of_silent fun _ _ => (Traced.onlyLogs_pure _).silent

/-- A command that resolves targets shows them in JSON. -/
theorem run_targets_of_ok {arguments : SettingsArguments} {canonical : CanonicalTargets}
    (least : LogLevel)
    (h : ((host.logging least).resolveTargets arguments).result = .ok canonical) :
    ∃ text log, answerText (.map canonical) = .ok text ∧
      (Command.targets arguments true).run host least =
        { status := 0, screen := host.console.printText text, log } := by
  obtain ⟨text, htext⟩ := exists_answerText (Host.hasJson_resolveTargets h _)
  have hitems : targetItems host.console canonical true = .ok (host.console.printText text) := by
    rw [targetItems, if_pos rfl, htext]
    rfl
  have hwork : (work (host.logging least) (.targets arguments true)).result =
      .ok (.ok (host.console.printText text)) :=
    Traced.bind_result_ok_iff.2 ⟨_, h, congrArg Except.ok hitems⟩
  obtain ⟨log, hrun⟩ := run_of_ok least hwork
  rw [lines_work_targets, Host.lines_resolveTargets, List.flatMap_nil, List.nil_append] at hrun
  exact ⟨text, log, htext, hrun⟩

/-- A command that resolves a preset shows it in JSON, after what it printed. -/
theorem run_resolve_of_ok {arguments : SettingsArguments} {bundles : List String} {preset : Preset}
    (least : LogLevel)
    (h : ((host.logging least).resolvePreset arguments bundles).result = .ok preset) :
    ∃ whole log, answerText preset.toValue = .ok whole ∧
      (Command.resolve arguments bundles true).run host least =
        { status := 0
          screen :=
            ((host.logging least).resolvePreset arguments bundles).lines.flatMap
              host.console.printText ++ host.console.printText whole
          log } := by
  obtain ⟨whole, hwhole⟩ :=
    exists_answerText (Preset.hasJson_toValue (Host.hasJson_resolvePreset h _))
  have hitems : preset.items host.console true = .ok (host.console.printText whole) := by
    rw [Preset.items, if_pos rfl, hwhole]
    rfl
  have hwork : (work (host.logging least) (.resolve arguments bundles true)).result =
      .ok (.ok (host.console.printText whole)) :=
    Traced.bind_result_ok_iff.2 ⟨_, h, congrArg Except.ok hitems⟩
  obtain ⟨log, hrun⟩ := run_of_ok least hwork
  rw [lines_work_resolve] at hrun
  exact ⟨whole, log, hwhole, hrun⟩

/-- A command that fails before it prints anything shows a report of the failure, or nothing. -/
theorem run_of_silent_error {failure : Failure} (least : LogLevel)
    (h : (command.work (host.logging least)).result = .error failure)
    (hlines : (command.work (host.logging least)).lines = []) :
    ∃ log, command.run host least =
      match command.report host.console failure with
      | .ok items => { status := 1, screen := items, log }
      | .error escaped => { status := 1, screen := [], log, escaped := some escaped } := by
  obtain ⟨log, hrun⟩ := run_of_error least h
  rw [hlines] at hrun
  exact ⟨log, hrun⟩

end Command

end TransformPreset
