import TransformPreset.Proofs.Preset.History

/-!
# One report in a session

A host may do anything with a session: build, claim the report, exchange the tables, the release
resolver or the running runtime (`Session.HostStep`). A step announces if it is a build that prints
a report, or a claim that is granted. The latch of a session counts announcements up to one
(`Session.announcements_add`), so along every run there is at most one.

A build reaches its report if its options are valid, its targets resolve and its selections have an
answer (`Session.Reaches`). What it prints then is the report on its plan as a whole, unless
something in the report has no JSON form: such a report is left before the first line that shows it.
`Session.run_reportsOnce` puts this together, and `Session.build_leavesReport` is a build that
leaves its report.
-/

namespace TransformPreset

namespace Session

/-! ## What hosts do -/

/-- One thing that a host does with a session or its surroundings. -/
inductive HostStep
  /-- Takes a step of the session. -/
  | take (step : Step)
  /-- Exchanges the tables. -/
  | setTables (tables : CapabilityTables)
  /-- Exchanges the release resolver. -/
  | setResolver (resolve : ReleaseResolver)
  /-- Exchanges the running runtime. -/
  | setNode (nodeVersion : Traced Value)

/-- The session after a step of a host. -/
def afterHost (session : Session) : HostStep → Session
  | .take step => session.after step
  | .setTables tables => { session with tables := tables }
  | .setResolver resolve => { session with resolve := resolve }
  | .setNode nodeVersion => { session with nodeVersion := nodeVersion }

/-- The session after a run of steps of hosts. -/
def runHosts (session : Session) (steps : List HostStep) : Session :=
  steps.foldl afterHost session

/-- The lines that a build prints once its plan is made. -/
def printed (session : Session) (input : OptionsInput) : List String :=
  ((session.build input).2.events.drop
    (Plan.make session.tables session.normalizer input).events.length).filterMap Event.line?

/-- Whether a step prints a report, or claims it and is granted it. -/
def announces (session : Session) : HostStep → Bool
  | .take (.build raw) => !(session.printed (.raw raw)).isEmpty
  | .take (.buildValidated options) => !(session.printed (.validated options)).isEmpty
  | .take .claim => session.claim.2
  | _ => false

/-- How many steps of a run announce. -/
def announcements (session : Session) : List HostStep → Nat
  | [] => 0
  | step :: rest => (session.announces step).toNat + (session.afterHost step).announcements rest

/-- What it takes for a build to reach its report. -/
structure Reaches (session : Session) (input : OptionsInput) (options : PresetOptions)
    (targets : CanonicalTargets) : Prop where
  /-- The options are valid. -/
  valid : (input.validate session.tables session.writing).result = .ok options
  /-- The targets resolve. -/
  resolved : (session.normalizer.resolveSpec options.targets).result = .ok targets
  /-- The transformations that the targets require can be selected. -/
  plugins : ∃ required, (selectRequired session.normalizer (.map targets)
    session.tables.plugins.values).result = .ok required
  /-- So can the polyfills, if they are asked for. -/
  builtIns : options.useBuiltIns = true → ∃ required, (selectRequired session.normalizer
    (.map targets) session.tables.builtIns.values).result = .ok required

/-- Whether a build is to print a report on these targets: it reaches the report, the options ask
for it, and it was not claimed before. -/
def Reports (session : Session) (input : OptionsInput) (targets : CanonicalTargets) : Prop :=
  session.debugPrinted = false ∧
    ∃ options, session.Reaches input options targets ∧ options.debug = true

/-- Whether a build prints the report on its plan, once and as a whole. -/
def PrintsReport (session : Session) (input : OptionsInput) : Prop :=
  ∃ plan, (Plan.make session.tables session.normalizer input).result = .ok plan ∧
    plan.reportLines session.tables session.writing = (session.printed input).map .ok

/-- Whether a build leaves the report on its plan before the first line that has no JSON form, and
fails as that line does. -/
def LeavesReport (session : Session) (input : OptionsInput) : Prop :=
  ∃ plan failure rest, (Plan.make session.tables session.normalizer input).result = .ok plan ∧
    plan.reportLines session.tables session.writing =
      (session.printed input).map .ok ++ .error failure :: rest ∧
    (session.build input).2.result = .error failure

/-- What a build prints and what becomes of the latch. -/
structure BuildReports (session : Session) (input : OptionsInput) : Prop where
  /-- A build prints its report exactly if it is to, and the report can be written, whatever becomes
  of the build afterwards. -/
  prints : session.PrintsReport input ↔
    (∃ targets, session.Reports input targets) ∧ session.CanReport input
  /-- Otherwise it leaves its report, if it is to print one, for want of a JSON form. -/
  leaves : session.LeavesReport input ↔
    (∃ targets, session.Reports input targets) ∧ ¬session.CanReport input
  /-- It does so for want of a JSON form, and if the outside world answers with numbers, for the
  length of an integer. -/
  noForm : session.LeavesReport input → ∃ failure,
    (session.build input).2.result = .error failure ∧ Json.NoForm failure ∧
      (session.normalizer.Numeric → failure = .integerTooLong)
  /-- Without an integer that is too long, in the tables or in the outside world, every report can
  be written. -/
  reportable : session.normalizer.Short → session.tables.plugins.IsShort →
    session.tables.builtIns.IsShort → session.CanReport input
  /-- A build that is to print no report prints nothing. -/
  silent : (∀ targets, ¬session.Reports input targets) → session.printed input = []
  /-- The report is claimed after a build that was to print it, whether the build fails or not. -/
  latch : (session.build input).1.debugPrinted = true ↔
    session.debugPrinted = true ∨ ∃ targets, session.Reports input targets
  /-- A build that does not reach its report fails, and leaves the session as it was. -/
  early : (∀ options targets, ¬session.Reaches input options targets) →
    (session.build input).1 = session ∧ ∃ failure, (session.build input).2.result = .error failure
  /-- Nothing else is printed but what asking for the running version prints. -/
  lines : ∃ before, before ⊆ session.nodeVersion.lines ∧
    (session.build input).2.lines = before ++ session.printed input

/-- The report is printed or claimed at most once along a run of steps of hosts. -/
structure ReportsOnce (session : Session) (steps : List HostStep) : Prop where
  /-- At most one step of a run announces. -/
  once : session.debugPrinted = false → session.announcements steps ≤ 1
  /-- If one did, the report is claimed, and the other way round. -/
  claimed : session.debugPrinted = false →
    ((session.runHosts steps).debugPrinted = true ↔ session.announcements steps = 1)
  /-- A claimed report stays claimed. -/
  stays : ∀ before rest, steps = before ++ rest →
    (session.runHosts before).debugPrinted = true → (session.runHosts steps).debugPrinted = true
  /-- What builds do after the run. -/
  build : ∀ input, (session.runHosts steps).BuildReports input
  /-- Making targets canonical prints no report. -/
  normalize : ∀ raw, ((session.runHosts steps).normalizer.normalize raw).PrintsAmong
    (session.runHosts steps).nodeVersion.lines

end Session

namespace Session

variable {session : Session} {input : OptionsInput} {options : PresetOptions}
  {targets : CanonicalTargets} {plan : Plan}

/-! ## Builds that reach their report -/

/-- A build that reaches its report makes a plan for its targets. -/
theorem Reaches.exists_madeFrom (h : session.Reaches input options targets) :
    ∃ plan, Plan.MadeFrom session.tables session.normalizer options plan ∧
      plan.targets = targets := by
  obtain ⟨required, hrequired⟩ := h.plugins
  have hpolyfills : ∃ polyfills, (Plan.selectPolyfills session.tables session.normalizer targets
      options).result = .ok polyfills := by
    unfold Plan.selectPolyfills
    split
    · rename_i hasked
      obtain ⟨builtIns, hbuiltIns⟩ := h.builtIns hasked
      exact ⟨_, Traced.bind_result_ok_iff.2 ⟨builtIns, hbuiltIns,
        Traced.bind_result_ok_iff.2 ⟨_, composePolyfills_result _ _ _ _, rfl⟩⟩⟩
    · exact ⟨none, rfl⟩
  obtain ⟨polyfills, hpolyfills⟩ := hpolyfills
  exact ⟨⟨targets, options.moduleType, _, polyfills, options.loose, options.debug⟩,
    { targets := h.resolved
      transformations :=
        Traced.bind_result_ok_iff.2 ⟨required, hrequired, composeTransformations_result _ _ _⟩
      polyfills := hpolyfills
      moduleType := rfl
      loose := rfl
      debug := rfl }, rfl⟩

/-- A build that makes a plan reaches its report. -/
theorem reaches_of_madeFrom
    (hvalid : (input.validate session.tables session.writing).result = .ok options)
    (h : Plan.MadeFrom session.tables session.normalizer options plan) :
    session.Reaches input options plan.targets where
  valid := hvalid
  resolved := h.targets
  plugins := by
    obtain ⟨required, hrequired, -⟩ := h.transformations_ok
    exact ⟨required, hrequired⟩
  builtIns hasked := by
    rw [← h.isSome_polyfills] at hasked
    obtain ⟨polyfills, hpolyfills⟩ := Option.isSome_iff_exists.1 hasked
    obtain ⟨-, required, hrequired, -⟩ := h.polyfills_ok hpolyfills
    exact ⟨required, hrequired⟩

/-- A build is to print a report exactly if it makes a plan that asks for one, and none was claimed
before. -/
theorem reports_iff :
    session.Reports input targets ↔
      session.debugPrinted = false ∧
        ∃ plan, (Plan.make session.tables session.normalizer input).result = .ok plan ∧
          plan.debug = true ∧ plan.targets = targets := by
  refine and_congr_right fun _ => ⟨?_, ?_⟩
  · rintro ⟨options, hreaches, hdebug⟩
    obtain ⟨plan, hmade, htargets⟩ := hreaches.exists_madeFrom
    exact ⟨plan, Plan.make_ok_iff.2 ⟨options, hreaches.valid, hmade⟩, hmade.debug.trans hdebug,
      htargets⟩
  · rintro ⟨plan, hplan, hdebug, rfl⟩
    obtain ⟨options, hvalid, hmade⟩ := Plan.make_ok_iff.1 hplan
    exact ⟨options, reaches_of_madeFrom hvalid hmade, hmade.debug.symm.trans hdebug⟩

/-- With a plan that is made, a build is to print a report exactly if the plan asks for it and none
was claimed before. -/
theorem reports_iff_of_plan
    (hplan : (Plan.make session.tables session.normalizer input).result = .ok plan) :
    session.Reports input targets ↔
      (plan.debug = true ∧ session.debugPrinted = false) ∧ plan.targets = targets := by
  rw [reports_iff, hplan]
  constructor
  · rintro ⟨hfresh, other, hother, hdebug, htargets⟩
    obtain rfl := Except.ok.inj hother
    exact ⟨⟨hdebug, hfresh⟩, htargets⟩
  · rintro ⟨⟨hdebug, hfresh⟩, htargets⟩
    exact ⟨hfresh, plan, rfl, hdebug, htargets⟩

/-- Without a plan a build does not reach its report. -/
theorem not_reaches_of_plan_error {failure : Failure}
    (hplan : (Plan.make session.tables session.normalizer input).result = .error failure) :
    ¬session.Reaches input options targets := by
  intro hreaches
  obtain ⟨plan, hmade, -⟩ := hreaches.exists_madeFrom
  rw [Plan.make_ok_iff.2 ⟨options, hreaches.valid, hmade⟩] at hplan
  cases hplan

/-! ## What builds print -/

/-- A build whose plan fails prints nothing after it. -/
theorem printed_of_plan_error {failure : Failure}
    (hplan : (Plan.make session.tables session.normalizer input).result = .error failure) :
    session.printed input = [] := by
  unfold printed
  rw [build_of_plan_error hplan, List.drop_length]
  rfl

/-- Finishing a plan only writes log entries. -/
theorem finish_onlyLogs (session : Session) (plan : Plan) (registry : Registry) :
    (session.finish plan registry).OnlyLogs :=
  (Traced.onlyLogs_of _).bind fun _ _ => (Traced.onlyLogs_log _ _ _).bind fun _ _ =>
    Traced.onlyLogs_pure _

/-- So does completing it. -/
theorem complete_onlyLogs (session : Session) (plan : Plan) :
    (session.complete plan).2.OnlyLogs := by
  rw [complete_snd]
  exact (Traced.onlyLogs_of _).bind fun registry _ => finish_onlyLogs session plan registry

/-- A build whose plan is made prints what announces the plan. -/
theorem printed_of_plan_ok
    (hplan : (Plan.make session.tables session.normalizer input).result = .ok plan) :
    session.printed input = (session.announce plan).2.lines := by
  unfold printed
  rw [build_snd, Traced.bind_ok hplan, List.drop_left]
  exact Traced.lines_bind_of_silent fun _ _ => by
    rw [← complete_snd]
    exact (complete_onlyLogs session plan).silent

/-- A plan that is announced by a report is announced by its lines. -/
theorem lines_announce (session : Session) (plan : Plan) :
    (session.announce plan).2.lines =
      if plan.debug ∧ session.debugPrinted = false then
        writtenLines (plan.reportLines session.tables session.writing)
      else [] := by
  rw [announce_snd]
  split
  · exact plan.lines_printReport session.tables session.writing
  · rfl

/-- A build prints something exactly if it is to print a report. -/
theorem printed_ne_nil_iff :
    session.printed input ≠ [] ↔ ∃ targets, session.Reports input targets := by
  cases hplan : (Plan.make session.tables session.normalizer input).result with
  | error failure =>
    rw [printed_of_plan_error hplan]
    refine ⟨fun h => absurd rfl h, ?_⟩
    rintro ⟨targets, -, options, hreaches, -⟩
    exact absurd hreaches (not_reaches_of_plan_error hplan)
  | ok plan =>
    simp only [reports_iff_of_plan hplan, exists_and_left, exists_eq', and_true]
    rw [printed_of_plan_ok hplan, lines_announce]
    split
    · rename_i hprints
      -- The first two lines of a report are always written.
      exact ⟨fun _ => hprints, fun _ => List.cons_ne_nil _ _⟩
    · rename_i hnone
      exact ⟨fun h => absurd rfl h, fun h => absurd h hnone⟩

/-- A build that is to print a report prints its lines before the first that has no JSON form. -/
theorem printed_of_reports (h : ∃ targets, session.Reports input targets) :
    ∃ plan, (Plan.make session.tables session.normalizer input).result = .ok plan ∧
      session.printed input = writtenLines (plan.reportLines session.tables session.writing) := by
  obtain ⟨targets, hreports⟩ := h
  obtain ⟨hfresh, plan, hplan, hdebug, -⟩ := reports_iff.1 hreports
  refine ⟨plan, hplan, ?_⟩
  rw [printed_of_plan_ok hplan, lines_announce, if_pos ⟨hdebug, hfresh⟩]

/-- A build that is to print a report can do so exactly if all lines of the report can be
written. -/
theorem canReport_iff_lines (h : ∃ targets, session.Reports input targets)
    (hplan : (Plan.make session.tables session.normalizer input).result = .ok plan) :
    session.CanReport input ↔
      ∀ line ∈ plan.reportLines session.tables session.writing, ∃ text, line = .ok text := by
  obtain ⟨targets, hreports⟩ := h
  obtain ⟨⟨hdebug, hfresh⟩, -⟩ := (reports_iff_of_plan hplan).1 hreports
  rw [canReport_iff hplan, announce_snd, if_pos ⟨hdebug, hfresh⟩, Plan.printReport_eq,
    printLines_ok_iff]

/-- A build prints the report on its plan exactly if it is to, and the report can be written. -/
theorem printsReport_iff :
    session.PrintsReport input ↔
      (∃ targets, session.Reports input targets) ∧ session.CanReport input := by
  constructor
  · rintro ⟨plan, hplan, hlines⟩
    -- The first line is printed, so the build was to print a report.
    have hreports : ∃ targets, session.Reports input targets := by
      refine printed_ne_nil_iff.1 fun hnone => ?_
      rw [hnone] at hlines
      cases hlines
    refine ⟨hreports, (canReport_iff_lines hreports hplan).2 ?_⟩
    rw [hlines]
    exact List.forall_mem_map.2 fun text _ => ⟨text, rfl⟩
  · rintro ⟨hreports, hcan⟩
    obtain ⟨plan, hplan, hprinted⟩ := printed_of_reports hreports
    obtain ⟨texts, htexts⟩ := exists_eq_map_ok ((canReport_iff_lines hreports hplan).1 hcan)
    refine ⟨plan, hplan, ?_⟩
    rw [hprinted, htexts, writtenLines_ok]

/-- A build leaves the report on its plan exactly if it is to print it, and cannot write it. -/
theorem leavesReport_iff :
    session.LeavesReport input ↔
      (∃ targets, session.Reports input targets) ∧ ¬session.CanReport input := by
  constructor
  · rintro ⟨plan, failure, rest, hplan, hlines, -⟩
    have hreports : ∃ targets, session.Reports input targets := by
      refine printed_ne_nil_iff.1 fun hnone => ?_
      rw [hnone] at hlines
      cases hlines
    refine ⟨hreports, fun hcan => ?_⟩
    -- The line that is left out can be written no more than the build can report.
    have hall := (canReport_iff_lines hreports hplan).1 hcan
    rw [hlines] at hall
    obtain ⟨text, htext⟩ := hall (.error failure) (List.mem_append_right _ List.mem_cons_self)
    cases htext
  · rintro ⟨hreports, hcan⟩
    obtain ⟨plan, hplan, hprinted⟩ := printed_of_reports hreports
    obtain ⟨failure, hfailure, hbuild, -⟩ := build_of_not_canReport hplan hcan
    rw [Plan.printReport_eq] at hfailure
    obtain ⟨rest, hlines⟩ := printLines_error_iff.1 hfailure
    exact ⟨plan, failure, rest, hplan, hprinted ▸ hlines, hbuild⟩

/-- A build prints what making its plan prints, and what comes after it. -/
theorem lines_build (session : Session) (input : OptionsInput) :
    (session.build input).2.lines =
      (Plan.make session.tables session.normalizer input).lines ++ session.printed input := by
  unfold printed
  cases hplan : (Plan.make session.tables session.normalizer input).result with
  | error failure =>
    rw [build_of_plan_error hplan, List.drop_length, List.filterMap_nil, List.append_nil]
    rfl
  | ok plan =>
    rw [build_snd, Traced.bind_ok hplan, List.drop_left]
    exact List.filterMap_append

/-! ## The latch -/

/-- Asking for the registry leaves the latch. -/
theorem debugPrinted_units (session : Session) :
    session.units.1.debugPrinted = session.debugPrinted := by
  cases hunits : session.units.2 with
  | ok registry => rw [units_fst hunits]
  | error failure => rw [units_fst_of_error hunits]

/-- Announcing a plan that asks for a report claims it. -/
theorem debugPrinted_announce (session : Session) (plan : Plan) :
    (session.announce plan).1.debugPrinted = (plan.debug || session.debugPrinted) := by
  unfold announce claim
  cases plan.debug <;> rfl

/-- Carrying out a plan claims the report as announcing it does. -/
theorem debugPrinted_carryOut (session : Session) (plan : Plan) :
    (session.carryOut plan).1.debugPrinted = (plan.debug || session.debugPrinted) := by
  unfold carryOut
  dsimp only
  split
  · exact debugPrinted_announce session plan
  · dsimp only
    rw [complete_fst, debugPrinted_units, debugPrinted_announce]

/-- The report is claimed after a build that was to print it, and stays claimed. -/
theorem debugPrinted_build :
    (session.build input).1.debugPrinted = true ↔
      session.debugPrinted = true ∨ ∃ targets, session.Reports input targets := by
  cases hplan : (Plan.make session.tables session.normalizer input).result with
  | error failure =>
    rw [build_of_plan_error hplan]
    refine ⟨.inl, fun h => h.elim id ?_⟩
    rintro ⟨targets, -, options, hreaches, -⟩
    exact absurd hreaches (not_reaches_of_plan_error hplan)
  | ok plan =>
    have hfst : (session.build input).1 = (session.carryOut plan).1 := by
      unfold build
      dsimp only
      rw [hplan]
    simp only [reports_iff_of_plan hplan, exists_and_left, exists_eq', and_true]
    rw [hfst, debugPrinted_carryOut]
    cases session.debugPrinted <;> simp

/-- The latch counts the report that a build prints. -/
theorem debugPrinted_build_add (session : Session) (input : OptionsInput) :
    session.debugPrinted.toNat + (!(session.printed input).isEmpty).toNat =
      (session.build input).1.debugPrinted.toNat := by
  have hlatch : (session.build input).1.debugPrinted = true ↔
      session.debugPrinted = true ∨ session.printed input ≠ [] :=
    debugPrinted_build.trans (or_congr_right printed_ne_nil_iff.symm)
  have hfresh : session.printed input ≠ [] → session.debugPrinted = false := by
    intro hprinted
    obtain ⟨targets, hreports⟩ := printed_ne_nil_iff.1 hprinted
    exact hreports.1
  cases hclaimed : session.debugPrinted <;> cases hprinted : session.printed input <;>
    simp_all

/-- The latch counts what a step announces. -/
theorem debugPrinted_afterHost (session : Session) (step : HostStep) :
    session.debugPrinted.toNat + (session.announces step).toNat =
      (session.afterHost step).debugPrinted.toNat := by
  cases step with
  | take step =>
    cases step with
    | build raw => exact debugPrinted_build_add session (.raw raw)
    | buildValidated options => exact debugPrinted_build_add session (.validated options)
    | claim =>
      show session.debugPrinted.toNat + (!session.debugPrinted).toNat = true.toNat
      cases session.debugPrinted <;> rfl
    | normalize raw => rfl
    | units => exact congrArg Bool.toNat (debugPrinted_units session).symm
  | setTables tables => rfl
  | setResolver resolve => rfl
  | setNode nodeVersion => rfl

/-- The latch counts what the steps of a run announce. -/
theorem announcements_add (session : Session) (steps : List HostStep) :
    session.debugPrinted.toNat + session.announcements steps =
      (session.runHosts steps).debugPrinted.toNat := by
  induction steps generalizing session with
  | nil => rfl
  | cons step rest ih =>
    rw [announcements, ← Nat.add_assoc, debugPrinted_afterHost]
    exact ih (session.afterHost step)

/-- A run takes a claimed report to a claimed one. -/
theorem debugPrinted_runHosts (h : session.debugPrinted = true) (steps : List HostStep) :
    (session.runHosts steps).debugPrinted = true := by
  have hcount := announcements_add session steps
  rw [h] at hcount
  cases hlast : (session.runHosts steps).debugPrinted with
  | true => rfl
  | false =>
    rw [hlast] at hcount
    simp at hcount

/-! ## One report -/

/-- What a build prints and what becomes of the latch, in any session. -/
theorem buildReports (session : Session) (input : OptionsInput) : session.BuildReports input where
  prints := printsReport_iff
  leaves := leavesReport_iff
  noForm := by
    intro hleaves
    obtain ⟨hreports, hcan⟩ := leavesReport_iff.1 hleaves
    obtain ⟨plan, hplan⟩ := exists_make_of_not_canReport hcan
    obtain ⟨options, -, hmade⟩ := Plan.make_ok_iff.1 hplan
    obtain ⟨failure, hfailure, hbuild, -⟩ := build_of_not_canReport hplan hcan
    refine ⟨failure, hbuild, plan.printReport_noForm _ _ failure hfailure, fun hnumeric => ?_⟩
    exact plan.printReport_numbers_failsWith _ _
      (Normalizer.resolveSpec_numbers hmade.targets hnumeric) failure hfailure
  reportable hshort hplugins hbuiltIns := canReport_of_short hshort hplugins hbuiltIns _
  silent hnone := by
    by_contra hprinted
    obtain ⟨targets, hreports⟩ := printed_ne_nil_iff.1 hprinted
    exact hnone targets hreports
  latch := debugPrinted_build
  early hnone := by
    cases hplan : (Plan.make session.tables session.normalizer input).result with
    | error failure =>
      rw [build_of_plan_error hplan]
      exact ⟨rfl, failure, rfl⟩
    | ok plan =>
      obtain ⟨options, hvalid, hmade⟩ := Plan.make_ok_iff.1 hplan
      exact absurd (reaches_of_madeFrom hvalid hmade) (hnone options plan.targets)
  lines := ⟨_, Plan.make_printsAmong _ _ _, lines_build session input⟩

/-- Along every run of steps of hosts the report is printed or claimed at most once, and builds
print it as a whole or leave it before the first line that has no JSON form. -/
theorem run_reportsOnce (session : Session) (steps : List HostStep) :
    session.ReportsOnce steps where
  once hfresh := by
    have hcount := announcements_add session steps
    rw [hfresh, Bool.toNat_false, Nat.zero_add] at hcount
    rw [hcount]
    exact Bool.toNat_le _
  claimed hfresh := by
    have hcount := announcements_add session steps
    rw [hfresh, Bool.toNat_false, Nat.zero_add] at hcount
    rw [hcount]
    exact Bool.toNat_eq_one.symm
  stays := by
    rintro before rest rfl hclaimed
    have hsplit : session.runHosts (before ++ rest) = (session.runHosts before).runHosts rest :=
      List.foldl_append
    rw [hsplit]
    exact debugPrinted_runHosts hclaimed rest
  build := buildReports _
  normalize raw := Normalizer.normalize_printsAmong _ raw

/-- A build may have come to its report, claim it, and leave it after two lines, for what the
runtime answered with. -/
theorem build_leavesReport :
    (∃ targets, withoutVersion.Reports runtimeReport targets) ∧
      ¬withoutVersion.PrintsReport runtimeReport ∧
      withoutVersion.printed runtimeReport =
        ["envpreset: `debug` option", "\nUsing targets:"] ∧
      (withoutVersion.build runtimeReport).1.debugPrinted = true := by
  have hprinted : withoutVersion.printed runtimeReport =
    ["envpreset: `debug` option", "\nUsing targets:"] := rfl
  refine ⟨printed_ne_nil_iff.1 ?reports, ?cut, hprinted, rfl⟩
  case reports =>
    rw [hprinted]
    exact List.cons_ne_nil _ _
  case cut =>
    rintro ⟨plan, -, hlines⟩
    -- A whole report is longer.
    rw [hprinted] at hlines
    have hlength := congrArg List.length hlines
    simp [Plan.reportLines] at hlength

end Session

end TransformPreset
