import TransformPreset.Proofs.Preset.Building

/-!
# Histories of a session

Whatever is done with a session, its tables and its outside world stay, its registry stays once
there is one, and the registry that it would answer with is the same all along (`Evolves`). So a
build can see nothing of what came before it but whether the debug report has been claimed
(`build_of_evolves`), and that only decides whether the report is printed: the outcome is the same
(`build_sameButLines`), unless the report is what the build fails for. `run_keepsBuilds` says so of
every run of steps, and `build_dependsOnHistory` is a build whose report fails.
-/

namespace TransformPreset

namespace Session

variable {session later : Session} {plan : Plan} {input : OptionsInput}

/-! ## Runs -/

/-- One thing that a host does with a session. -/
inductive Step
  /-- Builds a preset of options as they are given. -/
  | build (raw : Value)
  /-- Builds a preset of validated options. -/
  | buildValidated (options : PresetOptions)
  /-- Claims the debug report. -/
  | claim
  /-- Makes targets canonical. -/
  | normalize (raw : Value)
  /-- Asks for the registry. -/
  | units

/-- The session after a step, whether that succeeds or fails. -/
def after (session : Session) : Step → Session
  | .build raw => (session.build (.raw raw)).1
  | .buildValidated options => (session.build (.validated options)).1
  | .claim => session.claim.1
  -- A normalizer is put together from the session, and keeps nothing in it.
  | .normalize _ => session
  | .units => session.units.1

/-- The session after a run of steps. -/
def run (session : Session) (steps : List Step) : Session :=
  steps.foldl after session

/-- Two runs in sequence are one. -/
theorem run_append (session : Session) (steps more : List Step) :
    session.run (steps ++ more) = (session.run steps).run more :=
  List.foldl_append

/-! ## What steps leave as it is -/

/-- What a session can become by steps. -/
structure Evolves (session later : Session) : Prop where
  /-- The tables stay. -/
  tables : later.tables = session.tables
  /-- The release resolver stays. -/
  resolve : later.resolve = session.resolve
  /-- The version of the running runtime stays. -/
  nodeVersion : later.nodeVersion = session.nodeVersion
  /-- The places where units come from stay. -/
  sources : later.sources = session.sources
  /-- What can be written stays. -/
  writing : later.writing = session.writing
  /-- Asking for the registry has the same answer. -/
  units : later.units.2 = session.units.2
  /-- A registry stays once there is one. -/
  registry : ∀ kept, session.registry = some kept → later.registry = some kept
  /-- A claimed report stays claimed. -/
  claimed : session.debugPrinted = true → later.debugPrinted = true

namespace Evolves

theorem refl (session : Session) : session.Evolves session :=
  ⟨rfl, rfl, rfl, rfl, rfl, rfl, fun _ h => h, id⟩

theorem trans {last : Session} (h : session.Evolves later) (h' : later.Evolves last) :
    session.Evolves last where
  tables := h'.tables.trans h.tables
  resolve := h'.resolve.trans h.resolve
  nodeVersion := h'.nodeVersion.trans h.nodeVersion
  sources := h'.sources.trans h.sources
  writing := h'.writing.trans h.writing
  units := h'.units.trans h.units
  registry kept hkept := h'.registry kept (h.registry kept hkept)
  claimed hclaimed := h'.claimed (h.claimed hclaimed)

/-- The normalizer stays. -/
theorem normalizer (h : session.Evolves later) : later.normalizer = session.normalizer := by
  unfold Session.normalizer
  rw [h.tables, h.resolve, h.nodeVersion, h.writing]

/-- Plans are finished the same way. -/
theorem finish (h : session.Evolves later) (plan : Plan) :
    later.finish plan = session.finish plan :=
  funext fun registry => finish_congr h.tables plan registry

end Evolves

/-- A claim changes nothing else that a session keeps. -/
theorem evolves_claim (session : Session) : session.Evolves session.claim.1 :=
  ⟨rfl, rfl, rfl, rfl, rfl, units_withPrinted session true, fun _ h => h, fun _ => rfl⟩

/-- Nor does announcing a plan. -/
theorem evolves_announce (session : Session) (plan : Plan) :
    session.Evolves (session.announce plan).1 := by
  unfold announce
  split
  · exact evolves_claim session
  · exact .refl session

/-- Asking for the registry keeps the one that is found. -/
theorem evolves_units (session : Session) : session.Evolves session.units.1 := by
  cases hunits : session.units.2 with
  | ok registry =>
    rw [units_fst hunits]
    refine ⟨rfl, rfl, rfl, rfl, rfl, hunits.symm, fun kept hkept => ?_, id⟩
    -- A registry that is there is the one that is found.
    rw [units, hkept] at hunits
    rw [Except.ok.inj hunits]
  | error failure =>
    rw [units_fst_of_error hunits]
    exact .refl session

/-- Carrying out a plan leaves a session what it keeps, whether it fails or not. -/
theorem evolves_carryOut (session : Session) (plan : Plan) :
    session.Evolves (session.carryOut plan).1 := by
  unfold carryOut
  dsimp only
  split
  · exact evolves_announce session plan
  · dsimp only
    rw [complete_fst]
    exact (evolves_announce session plan).trans (evolves_units _)

/-- So does a build. -/
theorem evolves_build (session : Session) (input : OptionsInput) :
    session.Evolves (session.build input).1 := by
  unfold build
  dsimp only
  split
  · exact .refl session
  · exact evolves_carryOut session _

/-- So does every step. -/
theorem evolves_after (session : Session) (step : Step) : session.Evolves (session.after step) := by
  cases step with
  | build raw => exact evolves_build session _
  | buildValidated options => exact evolves_build session _
  | claim => exact evolves_claim session
  | normalize raw => exact .refl session
  | units => exact evolves_units session

/-- So does every run of steps. -/
theorem evolves_run (session : Session) (steps : List Step) :
    session.Evolves (session.run steps) := by
  induction steps generalizing session with
  | nil => exact .refl session
  | cons step rest ih => exact (evolves_after session step).trans (ih _)

/-! ## Builds after a run -/

/-- A build sees nothing of what became of a session but whether the report has been claimed. -/
theorem build_of_evolves (h : session.Evolves later)
    (hprinted : later.debugPrinted = session.debugPrinted) (input : OptionsInput) :
    (later.build input).2 = (session.build input).2 := by
  have hannounce : ∀ plan, (later.announce plan).2 = (session.announce plan).2 := by
    intro plan
    rw [announce_snd, announce_snd, h.tables, h.writing, hprinted]
  rw [build_snd, build_snd, h.tables, h.normalizer, h.units]
  simp only [h.finish, hannounce]

/-- Announcing a plan whose report does not fail prints lines, or nothing. -/
theorem announce_sameButLines (h : (session.announce plan).2.result = .ok ()) :
    (session.announce plan).2.SameButLines (pure ()) := by
  rw [announce_snd] at h ⊢
  split
  · rename_i hprints
    rw [if_pos hprints] at h
    exact (plan.printReport_onlyPrints session.tables session.writing).sameButLines h
  · exact .refl _

/-- A build that can report goes the same way but for lines in what its session becomes. -/
theorem build_sameButLines (h : session.Evolves later) (hreport : session.CanReport input) :
    (later.build input).2.SameButLines (session.build input).2 := by
  cases hprinted : session.debugPrinted with
  | true =>
    -- The report stays claimed, so that neither build prints it.
    rw [build_of_evolves h ((h.claimed hprinted).trans hprinted.symm)]
    exact .refl _
  | false =>
    rw [build_snd, build_snd, h.tables, h.normalizer, h.units]
    refine (Traced.SameButLines.refl _).bind fun plan hplan => ?_
    have hnow := (canReport_iff hplan).1 hreport
    -- What the session becomes prints the same report or none.
    have hlater : (later.announce plan).2.result = .ok () := by
      rw [announce_ok_iff] at hnow ⊢
      intro hdebug _
      rw [h.tables, h.writing]
      exact hnow hdebug hprinted
    rw [h.finish]
    exact ((announce_sameButLines hlater).trans (announce_sameButLines hnow).symm).bind
      fun _ _ => .refl _

/-! ## Builds do not depend on the history -/

/-- What a run of steps leaves of a session and of the builds after it. -/
structure KeepsBuilds (session : Session) (steps : List Step) : Prop where
  /-- The tables stay. -/
  tables : (session.run steps).tables = session.tables
  /-- The release resolver stays. -/
  resolve : (session.run steps).resolve = session.resolve
  /-- The version of the running runtime stays. -/
  nodeVersion : (session.run steps).nodeVersion = session.nodeVersion
  /-- The places where units come from stay. -/
  sources : (session.run steps).sources = session.sources
  /-- A registry stays from the step on after which there is one. -/
  registry : ∀ before rest kept, steps = before ++ rest →
    (session.run before).registry = some kept → (session.run steps).registry = some kept
  /-- A build that can report in the beginning has the same outcome after the run, and the same
  events but for printed lines. -/
  build : ∀ input, session.CanReport input →
    ((session.run steps).build input).2.SameButLines (session.build input).2
  /-- Without an integer that is too long, in the tables or in the outside world, every build can
  report. -/
  reportable : session.normalizer.Short → session.tables.plugins.IsShort →
    session.tables.builtIns.IsShort → ∀ input, session.CanReport input
  /-- A build that cannot report in the beginning fails there, for want of a JSON form. -/
  reportFails : ∀ input, ¬session.CanReport input →
    ∃ failure, Json.NoForm failure ∧ (session.build input).2.result = .error failure
  /-- If the outside world answers with numbers, that is for the length of an integer. -/
  numeric : session.normalizer.Numeric → ∀ input, ¬session.CanReport input →
    (session.build input).2.result = .error .integerTooLong
  /-- Every build does the same, and prints the same, as it does in the beginning, if the report is
  claimed then as it is after the run. -/
  latch : ∀ input, ((session.run steps).build input).2 =
    ({ session with debugPrinted := (session.run steps).debugPrinted }.build input).2

/-- Builds do not depend on the run of steps before them, unless their report fails. -/
theorem run_keepsBuilds (session : Session) (steps : List Step) : session.KeepsBuilds steps := by
  have h := evolves_run session steps
  have hlatch : Evolves { session with debugPrinted := (session.run steps).debugPrinted }
      (session.run steps) :=
    ⟨h.tables, h.resolve, h.nodeVersion, h.sources, h.writing,
      h.units.trans (units_withPrinted session _).symm, h.registry, id⟩
  refine
    { tables := h.tables
      resolve := h.resolve
      nodeVersion := h.nodeVersion
      sources := h.sources
      registry := ?registry
      build := fun _ => build_sameButLines h
      reportable := canReport_of_short
      reportFails := ?reportFails
      numeric := ?numeric
      latch := build_of_evolves hlatch rfl }
  case registry =>
    rintro before rest kept rfl hkept
    rw [run_append]
    exact (evolves_run (session.run before) rest).registry kept hkept
  case reportFails =>
    intro input hreport
    obtain ⟨plan, hplan⟩ := exists_make_of_not_canReport hreport
    obtain ⟨failure, hfailure, hbuild, -⟩ := build_of_not_canReport hplan hreport
    exact ⟨failure, plan.printReport_noForm _ _ failure hfailure, hbuild⟩
  case numeric =>
    intro hnumeric input hreport
    obtain ⟨plan, hplan⟩ := exists_make_of_not_canReport hreport
    obtain ⟨options, -, hmade⟩ := Plan.make_ok_iff.1 hplan
    obtain ⟨failure, hfailure, hbuild, -⟩ := build_of_not_canReport hplan hreport
    obtain rfl := plan.printReport_numbers_failsWith _ _
      (Normalizer.resolveSpec_numbers hmade.targets hnumeric) failure hfailure
    exact hbuild

/-- A session whose runtime answers with no version, and whose registry holds no unit. -/
def withoutVersion : Session where
  tables := { shippedTables with plugins := [] }
  nodeVersion := pure (.spec {})
  registry := some {}

/-- Options that ask for a report on the running runtime. -/
def runtimeReport : OptionsInput :=
  .raw (.map [("targets", .map [("node", .bool true)]), ("debug", .bool true)])

/-- In the beginning the report fails, for what the runtime answered with; once the report has been
claimed, the build goes on to the first unit that is missing. -/
theorem build_dependsOnHistory :
    (withoutVersion.build runtimeReport).2.result = .error .notSerializable ∧
    ((withoutVersion.run [.claim]).build runtimeReport).2.result =
      .error (.unitMissing "transform-es2015-modules-commonjs") :=
  ⟨rfl, rfl⟩

end Session

end TransformPreset
