import TransformPreset.Proofs.Capability.Requirement
import TransformPreset.Proofs.Preset.Completion
import TransformPreset.Proofs.Preset.ReportOnce

/-!
# Reports that give reasons

A report looks its versions up in the tables once more, apart from the decision that it reports on.
What it shows explains that decision all the same. A name that is listed without being asked for
shows an environment in which the capability is unknown, or known only from a greater version than
the targeted one (`exists_reason`). A capability that is not listed, without being excluded, has no
such environment (`known_of_not_requires`). `Session.build_reportExplains` says it of the lines that
a build prints.
-/

namespace TransformPreset

/-! ## What a report shows -/

/-- The version that a table has of a name for an environment. -/
def CapabilityTable.version? (table : CapabilityTable) (name environment : String) :
    Option Number :=
  (table.get? name).bind fun versions => versions.get? environment

/-- What is shown for an environment is the version of the table, or null. -/
def shownVersion (table : CapabilityTable) (name environment : String) : Value :=
  ((table.version? name environment).map Value.ofNumber).getD .null

/-- Whether a shown version is a reason against a targeted one: it is null, or greater. -/
def IsReason (targeted shown : Value) : Prop :=
  shown = .null ∨ ∃ n version, targeted.number? = some n ∧ shown.number? = some version ∧
    n.lt version = true

/-- Whether lines of a report explain the names that were selected from a table for targets. Some
names need no reason, because they are given. -/
structure Explains (writing : Writing) (table : CapabilityTable) (targets : CanonicalTargets)
    (names given lines : List String) : Prop where
  /-- There is a line for each name, in order, with an object in JSON. -/
  lines : List.Forall₂ (fun name line => ∃ text,
    Json.write .oneLine writing.levels (.map (shownVersions table targets name)) = .ok text ∧
      line = "  " ++ name ++ " " ++ text) names lines
  /-- The keys of an object are the targeted environments, in order. -/
  keys : ∀ name ∈ names, (shownVersions table targets name).keys = targets.keys
  /-- Its values are the versions of the table, and null where that has none. -/
  values : ∀ name ∈ names, ∀ environment ∈ targets.keys,
    (shownVersions table targets name).get? environment =
      some (shownVersion table name environment)
  /-- A name that is not given shows a reason, if there is a target. -/
  reason : targets ≠ [] → ∀ name ∈ names, name ∉ given →
    ∃ target ∈ targets, ∃ shown,
      (shownVersions table targets name).get? target.1 = some shown ∧ IsReason target.2 shown

/-- Whether what a build prints explains its plan. -/
structure Session.ReportExplains (session : Session) (input : OptionsInput) (plan : Plan) :
    Prop where
  /-- The report has the lines of the transformations and those of the polyfills, which explain
  them. -/
  printed : ∃ targets plugins polyfills,
    Json.write .lines session.writing.levels (.map plan.targets) = .ok targets ∧
    session.printed input =
      ["envpreset: `debug` option", "\nUsing targets:", targets,
        "\nModules transform: " ++ ((plan.moduleType.map ModuleType.name).getD "false"),
        "\nUsing plugins:"] ++ plugins ++ "\nUsing polyfills:" :: polyfills ∧
    Explains session.writing session.tables.plugins plan.targets plan.transformations input.included
      plugins ∧
    Explains session.writing session.tables.builtIns plan.targets (plan.polyfills.getD [])
      (input.included ++ session.tables.defaultInclude) polyfills
  /-- A preset that is built has what is reported. -/
  preset : ∀ preset, (session.build input).2.result = .ok preset →
    preset.targets = plan.targets ∧ preset.transformations = plan.transformations ∧
      preset.polyfills = plan.polyfills
  /-- An entry of the plugins that is neither listed nor excluded has a version for each target that
  the targeted one is not less than. -/
  unlisted : ∀ entry ∈ session.tables.plugins, entry.1 ∉ plan.transformations →
    entry.1 ∉ input.excluded → plan.targets ≠ [] ∧ ∀ target ∈ plan.targets, ∃ n version,
      target.2.number? = some n ∧ entry.2.get? target.1 = some version ∧ n.lt version = false

section

variable {table : CapabilityTable} {targets : CanonicalTargets}

/-- The version of a name is that of its entry. -/
theorem CapabilityTable.version?_of_mem (hdistinct : table.keys.Nodup)
    {entry : String × Capability} (hentry : entry ∈ table) (environment : String) :
    table.version? entry.1 environment = entry.2.get? environment := by
  rw [version?, Entries.get?_of_mem hdistinct hentry, Option.bind_some]

/-- What is shown of a name has an entry for each target, in order. -/
theorem shownVersions_eq (table : CapabilityTable) (targets : CanonicalTargets) (name : String) :
    shownVersions table targets name =
      targets.map fun (environment, _) => (environment, shownVersion table name environment) := by
  unfold shownVersions shownVersion CapabilityTable.version?
  cases table.get? name <;> rfl

/-- The shown environments are the targeted ones. -/
theorem keys_shownVersions (table : CapabilityTable) (targets : CanonicalTargets) (name : String) :
    (shownVersions table targets name).keys = targets.keys := by
  rw [shownVersions_eq]
  exact Entries.keys_mapKeyed (fun environment _ => shownVersion table name environment) targets

/-- A targeted environment is shown with the version that the table has for it. -/
theorem get?_shownVersions (name : String) {environment : String}
    (htargeted : environment ∈ targets.keys) :
    (shownVersions table targets name).get? environment =
      some (shownVersion table name environment) := by
  obtain ⟨targeted, hget⟩ : ∃ targeted, targets.get? environment = some targeted := by
    rw [← Option.ne_none_iff_exists']
    exact fun hnone => (Entries.get?_eq_none_iff _ _).1 hnone htargeted
  rw [shownVersions_eq, Entries.get?_mapKeyed
    (fun environment _ => shownVersion table name environment), hget, Option.map_some]

end

/-! ## Reasons -/

section

variable {normalizer : Normalizer} {spec : TargetSpec} {targets : CanonicalTargets}
  {table : CapabilityTable}

/-- A name that a table requires for some targets shows a reason. -/
theorem exists_reason (h : (normalizer.resolveSpec spec).result = .ok targets)
    (hspec : spec.NamesPlainly) (hdistinct : table.keys.Nodup) (hsome : targets ≠ [])
    {name : String} (hrequires : table.Requires normalizer targets name) :
    ∃ target ∈ targets, ∃ shown,
      (shownVersions table targets name).get? target.1 = some shown ∧ IsReason target.2 shown := by
  obtain ⟨versions, hentry, hrequired⟩ := hrequires
  -- The answer is about the targets as they are shown, although they may be made canonical again.
  have hfor := requiredFor_of_isRequired h hspec hrequired
  obtain ⟨target, htarget, hlacks⟩ := exists_lacks_of_requiredFor hsome hfor
  obtain ⟨n, hn⟩ := number_of_requiredFor hfor target htarget
  refine ⟨target, htarget, _, get?_shownVersions name (Entries.mem_keys_of_mem htarget), ?_⟩
  rw [lacks_values versions target.1 hn] at hlacks
  rw [shownVersion, CapabilityTable.version?_of_mem hdistinct hentry]
  cases hversion : versions.get? target.1 with
  | none => exact .inl rfl
  | some version =>
    rw [hversion] at hlacks
    exact .inr ⟨n, version, hn, Value.number?_ofNumber version, Except.ok.inj hlacks⟩

/-- A capability that is not required has a version for each target that the targeted one is not
less than. -/
theorem known_of_not_requires (h : (normalizer.resolveSpec spec).result = .ok targets)
    (hspec : spec.NamesPlainly) {versions : Capability}
    (hanswer : (isRequired normalizer (.map targets) versions.values).result = .ok false) :
    targets ≠ [] ∧ ∀ target ∈ targets, ∃ n version, target.2.number? = some n ∧
      versions.get? target.1 = some version ∧ n.lt version = false := by
  have hfor := requiredFor_of_isRequired h hspec hanswer
  obtain ⟨hsome, hnumbers, hknown⟩ := requiredFor_eq_false_iff.1 hfor
  refine ⟨hsome, fun target htarget => ?_⟩
  obtain ⟨n, hn⟩ := hnumbers target htarget
  have hlacks := hknown target htarget
  rw [lacks_values versions target.1 hn] at hlacks
  cases hversion : versions.get? target.1 with
  | none =>
    rw [hversion] at hlacks
    cases hlacks
  | some version =>
    rw [hversion] at hlacks
    exact ⟨n, version, hn, rfl, Except.ok.inj hlacks⟩

/-- The lines of names explain them, if those that are not given are required. -/
theorem explains_nameLines (h : (normalizer.resolveSpec spec).result = .ok targets)
    (hspec : spec.NamesPlainly) (hdistinct : table.keys.Nodup) {writing : Writing}
    {names given lines : List String}
    (hlines : names.map (nameLine writing table targets) = lines.map .ok)
    (hrequired : ∀ name ∈ names, name ∉ given → table.Requires normalizer targets name) :
    Explains writing table targets names given lines where
  lines := by
    have hequal : List.Forall₂ Eq (names.map (nameLine writing table targets)) (lines.map .ok) := by
      rw [List.forall₂_eq_eq_eq]
      exact hlines
    rw [List.forall₂_map_left_iff, List.forall₂_map_right_iff] at hequal
    refine hequal.imp fun name line hline => ?_
    obtain ⟨text, htext, rfl⟩ := except_map_ok_iff.1 hline
    exact ⟨text, htext, rfl⟩
  keys name _ := keys_shownVersions table targets name
  values name _ _ := get?_shownVersions name
  reason hsome name hname hnot := exists_reason h hspec hdistinct hsome (hrequired name hname hnot)

end

namespace Plan.MadeFrom

variable {tables : CapabilityTables} {normalizer : Normalizer} {options : PresetOptions}
  {plan : Plan}

/-- A transformation that is not included is required. -/
theorem requires_of_mem_transformations (h : MadeFrom tables normalizer options plan)
    {name : String} (hname : name ∈ plan.transformations) (hnot : name ∉ options.included) :
    tables.plugins.Requires normalizer plan.targets name := by
  rcases h.mem_transformations.1 hname with ⟨-, hincluded⟩ | ⟨hrequires, -⟩
  · exact absurd hincluded hnot
  · exact hrequires

/-- A polyfill that is neither included nor there by default is required. -/
theorem requires_of_mem_polyfills (h : MadeFrom tables normalizer options plan)
    {name : String} (hname : name ∈ plan.polyfills.getD [])
    (hnot : name ∉ options.included ++ tables.defaultInclude) :
    tables.builtIns.Requires normalizer plan.targets name := by
  rw [List.mem_append, not_or] at hnot
  cases hpolyfills : plan.polyfills with
  | none =>
    rw [hpolyfills] at hname
    exact absurd hname List.not_mem_nil
  | some polyfills =>
    rw [hpolyfills, Option.getD_some] at hname
    rcases (h.mem_polyfills hpolyfills).1 hname with ⟨-, hincluded⟩ | ⟨hrequires | hdefault, -⟩
    · exact absurd hincluded hnot.1
    · exact hrequires
    · exact absurd hdefault hnot.2

/-- An entry of the plugins that is neither listed nor excluded is not required. -/
theorem not_required_of_unlisted (h : MadeFrom tables normalizer options plan)
    {entry : String × Capability} (hentry : entry ∈ tables.plugins)
    (hunlisted : entry.1 ∉ plan.transformations) (hkept : entry.1 ∉ options.excluded) :
    (isRequired normalizer (.map plan.targets) entry.2.values).result = .ok false := by
  obtain ⟨required, hrequired, -⟩ := h.transformations_ok
  refine not_required_of_selectRequired hrequired hentry fun hrequires => hunlisted ?_
  exact h.mem_transformations.2 (.inr ⟨hrequires, fun hexcluded => hkept hexcluded.2⟩)

end Plan.MadeFrom

/-! ## Reports of builds -/

namespace Session

variable {session : Session} {input : OptionsInput}

/-- A report that a build prints explains what the build decided.

The tables name no capability twice. Targets may be given as a table, or as a specification that
names its environments plainly, as one that was read does: a decision for any other specification is
made for targets that are not shown (`build_hidesReason`). -/
theorem build_reportExplains (session : Session) (hplugins : session.tables.plugins.keys.Nodup)
    (hbuiltIns : session.tables.builtIns.keys.Nodup) (input : OptionsInput)
    (hspec : ∀ spec, input.spec? = some spec → spec.NamesPlainly)
    (hprints : session.PrintsReport input) :
    ∃ plan, (Plan.make session.tables session.normalizer input).result = .ok plan ∧
      session.ReportExplains input plan := by
  obtain ⟨plan, hplan, hlines⟩ := hprints
  obtain ⟨options, hvalid, hmade⟩ := Plan.make_ok_iff.1 hplan
  obtain ⟨hincluded, hexcluded, -⟩ := OptionsInput.validate_ok hvalid
  have hplain : options.targets.NamesPlainly :=
    (OptionsInput.isRead_or_spec? hvalid).elim TargetSpec.IsRead.namesPlainly (hspec _)
  refine ⟨plan, hplan, { printed := ?printed, preset := ?preset, unlisted := ?unlisted }⟩
  case printed =>
    obtain ⟨text, plugins, polyfills, htext, hprinted, hlisted, hfilled⟩ :=
      Plan.exists_of_reportLines hlines
    refine ⟨text, plugins, polyfills, htext, hprinted, ?_, ?_⟩
    · rw [← hincluded]
      exact explains_nameLines hmade.targets hplain hplugins hlisted fun _ =>
        hmade.requires_of_mem_transformations
    · rw [← hincluded]
      exact explains_nameLines hmade.targets hplain hbuiltIns hfilled fun _ =>
        hmade.requires_of_mem_polyfills
  case preset =>
    intro preset hbuild
    obtain ⟨other, hother, -, registry, plugins, -, -, rfl⟩ := build_ok_iff.1 hbuild
    obtain rfl := Except.ok.inj (hplan.symm.trans hother)
    exact ⟨rfl, rfl, rfl⟩
  case unlisted =>
    intro entry hentry hunlisted hkept
    rw [← hexcluded] at hkept
    exact known_of_not_requires hmade.targets hplain
      (hmade.not_required_of_unlisted hentry hunlisted hkept)

/-- Options that ask for a report on a browser, with overrides of both kinds. -/
def reportedOptions : Entries Value :=
  [("debug", .bool true), ("use_built_ins", .bool true),
    ("targets", .map [("browsers", .text "Chrome 50")]),
    ("include", .list [.text "transform-es2015-classes"]),
    ("exclude", .list [.text "transform-es2015-for-of"])]

/-- A shipped session prints a report on a browser and overrides, which explains its plan. -/
theorem shipped_reportExplains :
    (shipped 18).PrintsReport (.raw (.map reportedOptions)) ∧
      ∃ plan, (Plan.make shippedTables (shipped 18).normalizer
        (.raw (.map reportedOptions))).result = .ok plan ∧
      (shipped 18).ReportExplains (.raw (.map reportedOptions)) plan := by
  have hprints : (shipped 18).PrintsReport (.raw (.map reportedOptions)) := by
    have hseen : (Plan.make shippedTables (shipped 18).normalizer
        (.raw (.map reportedOptions))).result.toOption.any Plan.debug = true := by
      decide +kernel
    obtain ⟨plan, hfound, hdebug⟩ := (Option.any_eq_true _ _).1 hseen
    have hplan := ok_of_toOption hfound
    exact printsReport_iff.2
      ⟨⟨plan.targets, reports_iff.2 ⟨rfl, plan, hplan, hdebug, rfl⟩⟩, shipped_canReport 18 _⟩
  refine ⟨hprints, build_reportExplains (shipped 18) ?_ ?_ _ ?_ hprints⟩
  · decide +kernel
  · decide +kernel
  · rintro spec ⟨⟩

/-- A session in which electron 1.4 is chrome 53, and one capability is known to electron from 1 and
to chrome from 60. -/
def electronSession : Session where
  tables :=
    { plugins := [("transform-a", [("electron", .int 1), ("chrome", .int 60)])]
      builtIns := []
      electron := [("1.4", .int 53)]
      modules := []
      defaultInclude := [] }
  nodeVersion := Traced.fail .runtimeMissing

/-- Options with a specification that names electron as an environment. -/
def electronOptions : OptionsInput :=
  .raw (.map [
    ("targets", .spec { environments := [("electron", .version (.ofDecimal false 14 (-1)))] }),
    ("debug", .bool true)])

/-- A report on a specification that names electron as an environment may hide the reason: the
decision is about chrome 53, which the report does not show. -/
theorem build_hidesReason :
    electronSession.PrintsReport electronOptions ∧
      ∀ plan, (Plan.make electronSession.tables electronSession.normalizer electronOptions).result =
        .ok plan → ¬electronSession.ReportExplains electronOptions plan := by
  have hseen : (Plan.make electronSession.tables electronSession.normalizer
      electronOptions).result.toOption.any (fun plan => plan.debug &&
        plan.transformations == ["transform-a"] && !plan.targets.isEmpty &&
        plan.targets.all fun target =>
          target.1 == "electron" && target.2.number?.any fun n => !n.lt (.int 1)) = true := by
    decide +kernel
  obtain ⟨plan, hfound, hchecks⟩ := (Option.any_eq_true _ _).1 hseen
  have hplan := ok_of_toOption hfound
  simp only [Bool.and_eq_true, beq_iff_eq, List.all_eq_true, Bool.not_eq_true',
    List.isEmpty_eq_false_iff] at hchecks
  obtain ⟨⟨⟨hdebug, hnames⟩, hsome⟩, htargets⟩ := hchecks
  constructor
  · refine printsReport_iff.2
      ⟨⟨plan.targets, reports_iff.2 ⟨rfl, plan, hplan, hdebug, rfl⟩⟩, canReport_of_short ?_ ?_ ?_ _⟩
    · exact ⟨⟨fun entry hentry => by rw [List.mem_singleton.1 hentry]; exact ⟨_, rfl⟩,
        fun _ h => by cases h⟩, by decide +kernel, fun _ h => by cases h⟩
    · unfold CapabilityTable.IsShort
      decide +kernel
    · exact fun _ h => absurd h List.not_mem_nil
  · intro other hother hexplains
    obtain rfl := Except.ok.inj (hplan.symm.trans hother)
    obtain ⟨-, plugins, -, -, -, hplugins, -⟩ := hexplains.printed
    obtain ⟨target, htarget, shown, hshown, hreason⟩ := hplugins.reason hsome "transform-a"
      (by rw [hnames]; exact List.mem_cons_self) List.not_mem_nil
    obtain ⟨helectron, hknown⟩ := htargets target htarget
    -- What is shown of electron is less than the version that is targeted.
    rw [get?_shownVersions _ (Entries.mem_keys_of_mem htarget), helectron, Option.some.injEq]
      at hshown
    obtain rfl : Value.int 1 = shown := hshown
    rcases hreason with hnull | ⟨n, version, hn, hversion, hless⟩
    · cases hnull
    · obtain rfl := Option.some.inj hversion
      rw [hn, Option.any_some, hless] at hknown
      cases hknown

end Session

end TransformPreset
