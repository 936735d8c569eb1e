import TransformPreset.Proofs.Preset.Building
import TransformPreset.Proofs.Preset.Checks

/-!
# Builds that cannot fail late

A session is ready if its tables are cleanly partitioned and map every module type, the outside
world answers with numbers, and its registry was discovered for the tables, whatever has been done
to the registry since. In a ready session a build has two stages: the validation of the options and
the resolution of the targets. After them every version can be compared and every name has a unit,
so that nothing is left to fail but a report that shows an integer too long to be written
(`Session.build_completes`).

Targets that are given as a specification name no environment by the key of a shorthand. Such a
specification is never read from a table; the canonical targets of one would be read once more.
-/

namespace TransformPreset

/-- A session in which nothing is missing for a build. -/
structure Session.Ready (session : Session) : Prop where
  /-- The shape of a name tells the table that it stands in. -/
  clean : session.tables.CleanlyPartitioned
  /-- Every module type has a transformation. -/
  modules : ∀ type : ModuleType, (session.tables.modules.get? type.name).isSome
  /-- The table of electron versions and the running runtime give numbers. -/
  numeric : session.normalizer.Numeric
  /-- The registry was discovered for the tables, and some steps were taken since. -/
  registry : ∃ start sources specs steps,
    Registry.discover session.tables sources specs = .ok start ∧
      session.registry = some (start.run steps)

namespace Session

/-- Whether both stages of a build from a table of options succeed: the options are valid, and their
targets resolve. -/
def StagesPass (session : Session) (options : Entries Value) : Prop :=
  ∃ validated, (PresetOptions.read session.writing (some session.tables.knownNames)
      (.map options)).result = .ok validated ∧
    ∃ targets, (session.normalizer.normalize (.spec validated.targets)).result = .ok targets

/-- Whether one of the two stages fails, the first that does with this failure. -/
def StageFails (session : Session) (options : Entries Value) (failure : Failure) : Prop :=
  (PresetOptions.read session.writing (some session.tables.knownNames) (.map options)).result =
      .error failure ∨
    ∃ validated, (PresetOptions.read session.writing (some session.tables.knownNames)
        (.map options)).result = .ok validated ∧
      (session.normalizer.normalize (.spec validated.targets)).result = .error failure

/-- What a build comes to. -/
structure Completes (session : Session) (options : Entries Value) : Prop where
  /-- It succeeds exactly if both stages do and the report can be written, if there is one. -/
  succeeds : (∃ preset, (session.build (.raw (.map options))).2.result = .ok preset) ↔
    session.StagesPass options ∧ session.CanReport (.raw (.map options))
  /-- If a stage fails, it fails as that stage; it misses no unit and no key, unless the outside
  world itself answers so; and it leaves the session as it was and prints nothing but what the
  outside world does. -/
  early : ∀ failure, session.StageFails options failure →
    (session.build (.raw (.map options))).2.result = .error failure ∧
    (failure.OfKind [.unknownCapability, .key] →
      session.nodeVersion.result = .error failure ∨
        ∃ queries, session.resolve queries = .error failure) ∧
    (session.build (.raw (.map options))).1 = session ∧
    (session.build (.raw (.map options))).2.PrintsAmong session.nodeVersion.lines
  /-- If only the report cannot be written, it fails for the length of an integer, and leaves the
  session as it was but for the report, which is claimed. -/
  late : session.StagesPass options → ¬session.CanReport (.raw (.map options)) →
    (session.build (.raw (.map options))).2.result = .error .integerTooLong ∧
    (session.build (.raw (.map options))).1 = session.claim.1
  /-- Without an integer that is too long, in the tables or in the outside world, every report can
  be written. -/
  reportable : session.normalizer.Short → session.tables.plugins.IsShort →
    session.tables.builtIns.IsShort → session.CanReport (.raw (.map options))

end Session

/-! ## Targets of validated options -/

/-- Targets that were validated name no environment by a shorthand if a specification among the
options does not. -/
theorem PresetOptions.notMem_shorthandKeys {writing : Writing} {known? : Option (List String)}
    {options : Entries Value} {validated : PresetOptions}
    (h : (read writing known? (.map options)).result = .ok validated)
    (hspec : ∀ spec, options.get? "targets" = some (.spec spec) →
      ∀ key ∈ spec.environments.keys, key ∉ shorthandKeys) :
    ∀ key ∈ validated.targets.environments.keys, key ∉ shorthandKeys := by
  intro key hkey
  rw [read_map] at h
  obtain ⟨-, htargets, -⟩ := readTable_ok_iff.1 h
  rcases readTargets_ok htargets with hread | hgiven
  · exact hread.notMem_shorthandKeys hkey
  · exact hspec _ hgiven key hkey

namespace Session

variable {session : Session} {options : Entries Value}

/-! ## Units of a ready session -/

/-- The registry of a ready session holds the units that its tables call for. -/
theorem Ready.isSome_unit? (h : session.Ready) {registry : Registry}
    (hregistry : session.registry = some registry) {unit : NamedUnit}
    (hunit : unit ∈ builtInUnits session.tables) : (registry.unit? unit.id).isSome := by
  obtain ⟨start, sources, specs, steps, hdiscover, hrun⟩ := h.registry
  obtain rfl : start.run steps = registry := Option.some.inj (hrun.symm.trans hregistry)
  exact Registry.isSome_of_discover hdiscover steps hunit

/-- A plan from options that were read from a value can be assembled in a ready session. -/
theorem Ready.exists_assemble (h : session.Ready) {registry : Registry}
    (hregistry : session.registry = some registry) {value : Value} {validated : PresetOptions}
    {plan : Plan}
    (hoptions : ((OptionsInput.raw value).validate session.tables session.writing).result =
      .ok validated)
    (hmade : Plan.MadeFrom session.tables session.normalizer validated plan) :
    ∃ plugins, plan.assemble session.tables registry = .ok plugins := by
  refine Plan.exists_assemble ?_ ?_ ?_
  · -- Every module type has a transformation, and discovery has made a unit for each.
    intro type _
    obtain ⟨id, hid⟩ := Option.isSome_iff_exists.1 (h.modules type)
    refine ⟨id, hid, ?_⟩
    have hmodule : id ∈ session.tables.modules.map Prod.snd :=
      List.mem_map.2 ⟨(type.name, id), Entries.mem_of_get? hid, rfl⟩
    exact h.isSome_unit? hregistry (ofId_mem_builtInUnits_of_module hmodule)
  · -- A known name without a built-in's shape is a plugin, and every plugin has a unit.
    intro name hname
    have hplugin : name ∈ session.tables.plugins.keys := by
      rcases hmade.mem_transformations.1 hname with ⟨hshape, hincluded⟩ | ⟨⟨_, hentry, -⟩, -⟩
      · exact h.clean.mem_plugins
          (OptionsInput.included_subset_knownNames hoptions name hincluded) hshape
      · exact Entries.mem_keys_of_mem hentry
    exact h.isSome_unit? hregistry (ofId_mem_builtInUnits_of_plugin hplugin)
  · exact h.isSome_unit? hregistry (ofId_mem_builtInUnits_of_polyfills _)

/-- In a ready session the resolved targets of validated options are comparable. -/
theorem Ready.comparable (h : session.Ready) {known? : Option (List String)}
    {validated : PresetOptions} {targets : CanonicalTargets}
    (hspec : ∀ spec, options.get? "targets" = some (.spec spec) →
      ∀ key ∈ spec.environments.keys, key ∉ shorthandKeys)
    (hread : (PresetOptions.read session.writing known? (.map options)).result = .ok validated)
    (hresolve : (session.normalizer.resolveSpec validated.targets).result = .ok targets) :
    Comparable targets :=
  Normalizer.resolveSpec_comparable hresolve (PresetOptions.notMem_shorthandKeys hread hspec)
    h.numeric

/-! ## Builds of a ready session -/

/-- In a ready session a plan is made once both stages of a build succeed. -/
theorem Ready.exists_make (h : session.Ready)
    (hspec : ∀ spec, options.get? "targets" = some (.spec spec) →
      ∀ key ∈ spec.environments.keys, key ∉ shorthandKeys)
    (hstages : session.StagesPass options) :
    ∃ plan, (Plan.make session.tables session.normalizer (.raw (.map options))).result =
      .ok plan := by
  obtain ⟨validated, hread, targets, hresolve⟩ := hstages
  rw [Normalizer.normalize_spec] at hresolve
  obtain ⟨plan, hmade⟩ :=
    Plan.exists_madeFrom hresolve (h.comparable hspec hread hresolve) session.tables
  exact ⟨plan, Plan.make_ok_iff.2 ⟨validated, hread, hmade⟩⟩

/-- In a ready session a plan that is made is built if the report on it can be printed. -/
theorem Ready.exists_build (h : session.Ready) {value : Value} {plan : Plan}
    (hplan : (Plan.make session.tables session.normalizer (.raw value)).result = .ok plan)
    (hreport : (session.announce plan).2.result = .ok ()) :
    ∃ preset, (session.build (.raw value)).2.result = .ok preset := by
  obtain ⟨validated, hread, hmade⟩ := Plan.make_ok_iff.1 hplan
  obtain ⟨start, sources, specs, steps, -, hregistry⟩ := h.registry
  obtain ⟨plugins, hplugins⟩ := h.exists_assemble hregistry hread hmade
  refine ⟨plan.toPreset plugins, build_ok_iff.2 ⟨plan, hplan, hreport, start.run steps, plugins,
    ?units, hplugins, rfl⟩⟩
  case units =>
    unfold units
    rw [hregistry]

/-- The targets of a plan that is made are numbers. -/
theorem Ready.numbers (h : session.Ready) {input : OptionsInput} {plan : Plan}
    (hplan : (Plan.make session.tables session.normalizer input).result = .ok plan) :
    ∀ entry ∈ plan.targets, ∃ n, Value.number? entry.2 = some n := by
  obtain ⟨validated, -, hmade⟩ := Plan.make_ok_iff.1 hplan
  exact Normalizer.resolveSpec_numbers hmade.targets h.numeric

/-- Neither stage of a plan misses a unit or a key, unless the outside world answers so. -/
theorem outside_of_missing {known? : Option (List String)} {raw : Value} {failure : Failure}
    {writing : Writing}
    (hstage : (PresetOptions.read writing known? raw).result = .error failure ∨
      ∃ validated : PresetOptions,
        (session.normalizer.resolveSpec validated.targets).result = .error failure)
    (hmissing : failure.OfKind [.unknownCapability, .key]) :
    session.nodeVersion.result = .error failure ∨
      ∃ queries, session.resolve queries = .error failure := by
  rcases hstage with hread | ⟨validated, hresolve⟩
  · have hkind := PresetOptions.read_failsWith _ known? raw failure hread
    exact absurd hmissing (Failure.not_ofKind hkind (by decide))
  · rcases session.normalizer.resolveSpec_failsWith _ failure hresolve with hkind | houtside
    · exact absurd hmissing (Failure.not_ofKind hkind (by decide))
    · exact houtside

/-- In a ready session a build from a table of options is complete: it succeeds exactly if the
options are valid, the targets resolve, and the report can be written, if there is one; otherwise it
fails as the first of these that fails. -/
theorem build_completes (session : Session) (hready : session.Ready) (options : Entries Value)
    (hspec : ∀ spec, options.get? "targets" = some (.spec spec) →
      ∀ key ∈ spec.environments.keys, key ∉ shorthandKeys) : session.Completes options where
  succeeds := by
    constructor
    · rintro ⟨preset, hbuild⟩
      obtain ⟨plan, hplan, hreport, -⟩ := build_ok_iff.1 hbuild
      obtain ⟨validated, hread, hmade⟩ := Plan.make_ok_iff.1 hplan
      refine ⟨⟨validated, hread, plan.targets, ?_⟩, (canReport_iff hplan).2 hreport⟩
      rw [Normalizer.normalize_spec]
      exact hmade.targets
    · rintro ⟨hstages, hreport⟩
      obtain ⟨plan, hplan⟩ := hready.exists_make hspec hstages
      exact hready.exists_build hplan ((canReport_iff hplan).1 hreport)
  early failure hstage := by
    simp only [StageFails, Normalizer.normalize_spec] at hstage
    have hcomparable : ∀ validated targets,
        ((OptionsInput.raw (.map options)).validate session.tables
          session.normalizer.writing).result = .ok validated →
        (session.normalizer.resolveSpec validated.targets).result = .ok targets →
        Comparable targets := fun _ _ => hready.comparable hspec
    have hplan := (Plan.make_error_iff hcomparable).2 hstage
    -- The build ends with the plan, before anything of the session is touched.
    rw [build_of_plan_error hplan]
    refine ⟨rfl, fun hmissing => ?_, rfl, Plan.make_printsAmong _ _ _⟩
    exact outside_of_missing (hstage.imp_right fun ⟨validated, h⟩ => ⟨validated, h.2⟩) hmissing
  late hstages hreport := by
    obtain ⟨plan, hplan⟩ := hready.exists_make hspec hstages
    obtain ⟨failure, hfailure, hbuild, hsession⟩ := build_of_not_canReport hplan hreport
    obtain rfl := Plan.printReport_numbers_failsWith _ _ (hready.numbers hplan) failure hfailure
    exact ⟨hbuild, hsession⟩
  reportable hshort hplugins hbuiltIns := canReport_of_short hshort hplugins hbuiltIns _

/-- Everything that a shipped session answers with is a number. -/
theorem shipped_numeric (version : Nat) : (shipped version).normalizer.Numeric where
  electron := by
    have hnumbers : ∀ entry ∈ shippedTables.electron, (Value.number? entry.2).isSome = true := by
      decide +kernel
    exact fun entry hentry => Option.isSome_iff_exists.1 (hnumbers entry hentry)
  nodeVersion := by
    intro value h
    refine ⟨.float (.ofDecimal false version 0), ?_⟩
    rw [← Except.ok.inj h]
    rfl

/-- No chrome version of the shipped tables is an integer that is too long. -/
theorem shippedTables_electron_short :
    ∀ entry ∈ shippedTables.electron, Value.isLong entry.2 = false := by
  decide +kernel

/-- With the shipped tables, and a runtime whose version is no integer that is too long, every build
can report. -/
theorem canReport_of_shippedTables (htables : session.tables = shippedTables)
    (hshort : session.normalizer.Short) (input : OptionsInput) : session.CanReport input := by
  refine canReport_of_short hshort ?plugins ?builtIns input
  case plugins =>
    rw [htables]
    unfold CapabilityTable.IsShort
    decide +kernel
  case builtIns =>
    rw [htables]
    unfold CapabilityTable.IsShort
    decide +kernel

/-- A shipped session can always report. -/
theorem shipped_canReport (version : Nat) (input : OptionsInput) :
    (shipped version).CanReport input := by
  refine canReport_of_shippedTables rfl
    ⟨shipped_numeric version, shippedTables_electron_short, ?_⟩ input
  rintro value ⟨⟩
  rfl

/-- The registry that is discovered for the shipped tables. -/
def shippedRegistry : Registry :=
  (Registry.discover shippedTables {} []).toOption.getD {}

/-- The registry is found for the shipped tables, whatever the electron versions are. -/
theorem discover_shippedRegistry (electron : Entries Value) :
    Registry.discover { shippedTables with electron } {} [] = .ok shippedRegistry := by
  obtain ⟨start, hstart⟩ : ∃ start, Registry.discover shippedTables {} [] = .ok start :=
    exists_ok_of_isSome (by decide +kernel)
  rw [shippedRegistry, hstart]
  exact hstart

/-- A shipped session with electron versions of its own, after some steps of its registry. -/
def prepared (electron : Entries Value) (steps : List Registry.Step) : Session :=
  { shipped 18 with
    tables := { shippedTables with electron }
    registry := some (shippedRegistry.run steps) }

/-- Such a session is ready if the electron versions are numbers. -/
theorem prepared_ready {electron : Entries Value}
    (hnumbers : ∀ entry ∈ electron, ∃ n, Value.number? entry.2 = some n)
    (steps : List Registry.Step) : (prepared electron steps).Ready where
  clean :=
    { plugins := CapabilityTables.shippedTables_cleanlyPartitioned.plugins
      builtIns := CapabilityTables.shippedTables_cleanlyPartitioned.builtIns
      defaultInclude := CapabilityTables.shippedTables_cleanlyPartitioned.defaultInclude }
  modules := by rintro ⟨⟩ <;> rfl
  numeric := ⟨hnumbers, (shipped_numeric 18).nodeVersion⟩
  registry := ⟨shippedRegistry, {}, [], steps, discover_shippedRegistry electron, rfl⟩

/-- Both stages pass if the computation that goes through them has an answer. -/
theorem stagesPass_of_isSome
    (h : (PresetOptions.read session.writing (some session.tables.knownNames) (.map options) >>=
      fun validated =>
        session.normalizer.normalize (.spec validated.targets)).result.toOption.isSome) :
    session.StagesPass options := by
  obtain ⟨targets, htargets⟩ := exists_ok_of_isSome h
  obtain ⟨validated, hread, hresolve⟩ := Traced.bind_result_ok_iff.1 htargets
  exact ⟨validated, hread, targets, hresolve⟩

/-- A shipped session in which one unit was replaced. -/
def withReplacement : Session :=
  prepared shippedTables.electron
    [.replace ⟨"transform-es2015-for-of", "for-of-in-another-package"⟩]

/-- Options with a browser query that are reported on. -/
def browserReport : Entries Value :=
  [("targets", .map [("browsers", .text "Chrome 50")]), ("debug", .bool true)]

/-- A session in which one unit was replaced builds what is valid, and reports on it. -/
theorem withReplacement_completes :
    withReplacement.Ready ∧
      ∃ preset, (withReplacement.build (.raw (.map browserReport))).2.result = .ok preset := by
  have hready : withReplacement.Ready := prepared_ready (shipped_numeric 18).electron _
  have hcompletes := build_completes _ hready browserReport fun spec h => by cases h
  exact ⟨hready, hcompletes.succeeds.2
    ⟨stagesPass_of_isSome (by decide +kernel), shipped_canReport 18 (.raw (.map browserReport))⟩⟩

/-- Whether a build of a ready session fails although both of its stages succeed. -/
def FailsLate (session : Session) (options : Entries Value) : Prop :=
  session.Ready ∧ session.StagesPass options ∧
    ¬∃ preset, (session.build (.raw (.map options))).2.result = .ok preset

/-- A build fails late with a specification that names electron as an environment, in a version that
no table has: its canonical targets are read once more. So does one that reports on a chrome version
that is too long to be written. -/
theorem build_failsLate :
    FailsLate (prepared shippedTables.electron [])
      [("targets", .spec { environments := [("electron", .version (.ofDecimal false 99 0))] })] ∧
    FailsLate (prepared [("1.4", .int (10 ^ 5000))] [])
      [("targets", .map [("electron", .text "1.4")]), ("debug", .bool true)] := by
  constructor
  · refine ⟨prepared_ready (shipped_numeric 18).electron [],
      stagesPass_of_isSome (by decide +kernel), ?_⟩
    rintro ⟨preset, hbuild⟩
    have hnone : ((prepared shippedTables.electron []).build (.raw (.map [("targets",
        .spec { environments := [("electron", .version (.ofDecimal false 99 0))] })]))).2.result
          |>.toOption.isNone := by
      decide +kernel
    rw [hbuild] at hnone
    cases hnone
  · refine ⟨prepared_ready (fun entry hentry => ?_) [],
      stagesPass_of_isSome (by decide +kernel), ?_⟩
    · rw [List.mem_singleton.1 hentry]
      exact ⟨_, rfl⟩
    · rintro ⟨preset, hbuild⟩
      have hnone : ((prepared [("1.4", .int (10 ^ 5000))] []).build (.raw (.map [("targets",
          .map [("electron", .text "1.4")]), ("debug", .bool true)]))).2.result
            |>.toOption.isNone := by
        decide +kernel
      rw [hbuild] at hnone
      cases hnone

end Session

end TransformPreset
