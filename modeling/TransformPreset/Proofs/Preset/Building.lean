import TransformPreset.Preset.Session
import TransformPreset.Proofs.Preset.Assembly
import TransformPreset.Proofs.Preset.Plan
import TransformPreset.Proofs.Preset.Report

/-!
# How a build goes

A build that succeeds has made a plan, has the registry that the session keeps from then on, and has
assembled the plan from it (`Session.build_ok`). A build whose plan fails leaves the session as it
was (`Session.build_of_plan_error`), and a plan that can be reported on and assembled is built
(`Session.build_ok_iff`).
-/

namespace TransformPreset

namespace Session

/-- A session in which everything is as it is shipped, on a runtime of the given version. -/
def shipped (version : Nat) : Session where
  nodeVersion := pure (.float (.ofDecimal false version 0))

variable {session : Session} {input : OptionsInput} {plan : Plan} {registry : Registry}
  {preset : Preset}

/-! ## The stages of a build -/

/-- Announcing a plan changes nothing in a session but whether the report has been printed. -/
theorem exists_announce_fst (session : Session) (plan : Plan) :
    ∃ printed, (session.announce plan).1 = { session with debugPrinted := printed } := by
  unfold announce
  split
  · exact ⟨true, rfl⟩
  · exact ⟨session.debugPrinted, rfl⟩

/-- A plan is announced by the report on it, if it asks for that and none was claimed before. -/
theorem announce_snd (session : Session) (plan : Plan) :
    (session.announce plan).2 =
      if plan.debug ∧ session.debugPrinted = false then
        plan.printReport session.tables session.writing
      else pure () := by
  unfold announce claim
  cases plan.debug <;> cases session.debugPrinted <;> rfl

/-- Announcing a plan fails only for the report on it. -/
theorem announce_ok_iff :
    (session.announce plan).2.result = .ok () ↔
      (plan.debug = true → session.debugPrinted = false →
        plan.IsWritten session.tables session.writing) := by
  rw [announce_snd, ← Plan.printReport_ok_iff]
  split
  · rename_i hprints
    exact ⟨fun h _ _ => h, fun h => h hprints.1 hprints.2⟩
  · rename_i hnone
    exact iff_of_true rfl fun hdebug hfresh => absurd ⟨hdebug, hfresh⟩ hnone

/-- The registry that a session has is what it keeps, whether or not a report has been printed. -/
theorem units_withPrinted (session : Session) (printed : Bool) :
    ({ session with debugPrinted := printed } : Session).units.2 = session.units.2 := by
  unfold units
  cases session.registry with
  | some registry => rfl
  | none =>
    dsimp only
    cases Registry.discover session.tables session.sources [] <;> rfl

/-- A session that was asked for its registry keeps it, and nothing else changes. -/
theorem units_fst (h : session.units.2 = .ok registry) :
    session.units.1 = { session with registry := some registry } := by
  unfold units at h ⊢
  cases hkept : session.registry with
  | some kept =>
    rw [hkept] at h
    -- The session is written with the registry that it has already.
    obtain rfl : kept = registry := Except.ok.inj h
    cases session
    dsimp only at hkept ⊢
    rw [hkept]
  | none =>
    rw [hkept] at h
    dsimp only at h ⊢
    cases hdiscover : Registry.discover session.tables session.sources [] with
    | ok discovered =>
      rw [hdiscover] at h
      rw [← Except.ok.inj h]
    | error failure =>
      rw [hdiscover] at h
      cases h

/-- A session whose registry cannot be discovered stays as it is. -/
theorem units_fst_of_error {failure : Failure} (h : session.units.2 = .error failure) :
    session.units.1 = session := by
  unfold units at h ⊢
  cases hkept : session.registry with
  | some kept => rfl
  | none =>
    rw [hkept] at h
    dsimp only at h ⊢
    cases hdiscover : Registry.discover session.tables session.sources [] with
    | ok discovered =>
      rw [hdiscover] at h
      cases h
    | error other => rfl

/-- If each unit of the registry that a session has stands under its own id, so does each unit of
the one that it keeps. -/
theorem units_sound (h : session.units.2 = .ok registry)
    (hsound : ∀ kept, session.registry = some kept → kept.Sound) : registry.Sound := by
  unfold units at h
  split at h
  · rename_i kept hkept
    rw [← Except.ok.inj h]
    exact hsound kept hkept
  · split at h
    · rename_i discovered hdiscover
      rw [← Except.ok.inj h]
      exact Registry.sound_of_discover hdiscover
    · cases h

/-- A plan is finished exactly if it can be assembled. -/
theorem finish_ok_iff :
    (session.finish plan registry).result = .ok preset ↔
      ∃ plugins, plan.assemble session.tables registry = .ok plugins ∧
        preset = plan.toPreset plugins := by
  unfold finish
  simp only [Traced.bind_result_ok_iff, Traced.of_result, Traced.log_result, Traced.pure_result,
    Except.ok.injEq, exists_const, true_and, @eq_comm _ _ preset]

/-- A plan is finished with the tables of a session, and nothing else of it. -/
theorem finish_congr {other : Session} (h : other.tables = session.tables) (plan : Plan)
    (registry : Registry) : other.finish plan registry = session.finish plan registry := by
  unfold finish
  rw [h]

/-- A plan is completed by asking for the registry and finishing it. -/
theorem complete_snd (session : Session) (plan : Plan) :
    (session.complete plan).2 = Traced.of session.units.2 >>= session.finish plan := by
  unfold complete
  cases hunits : session.units with
  | mk next result =>
    cases result with
    | error failure => rfl
    | ok registry =>
      have hnext : next.tables = session.tables := by
        have hfst := congrArg Session.tables (units_fst (congrArg Prod.snd hunits))
        rwa [hunits] at hfst
      dsimp only
      rw [finish_congr hnext]
      rfl

/-- A plan is completed exactly if there is a registry that it can be assembled from. -/
theorem complete_ok_iff :
    (session.complete plan).2.result = .ok preset ↔
      ∃ registry plugins, session.units.2 = .ok registry ∧
        plan.assemble session.tables registry = .ok plugins ∧ preset = plan.toPreset plugins := by
  rw [complete_snd, Traced.bind_result_ok_iff]
  simp only [Traced.of_result, finish_ok_iff, exists_and_left]

/-- Completing a plan asks for the registry and changes nothing else. -/
theorem complete_fst (session : Session) (plan : Plan) :
    (session.complete plan).1 = session.units.1 := by
  unfold complete
  split
  · rename_i h
    rw [h]
  · rename_i h
    rw [h]

/-- A plan is carried out by announcing it, asking for the registry, and finishing it. -/
theorem carryOut_snd (session : Session) (plan : Plan) :
    (session.carryOut plan).2 = (session.announce plan).2 >>= fun _ =>
      Traced.of session.units.2 >>= session.finish plan := by
  obtain ⟨printed, hprinted⟩ := exists_announce_fst session plan
  unfold carryOut
  dsimp only
  cases hreport : (session.announce plan).2.result with
  | error failure => rw [Traced.bind_error hreport]
  | ok done =>
    rw [Traced.bind_ok hreport]
    dsimp only
    -- Whether a report was printed matters to nothing after it.
    have hfinish : ({ session with debugPrinted := printed } : Session).finish plan =
        session.finish plan := funext fun _ => finish_congr rfl plan _
    rw [hprinted, complete_snd, units_withPrinted, hfinish]

/-- A plan is carried out exactly if the report on it can be printed and it can be completed. -/
theorem carryOut_ok_iff :
    (session.carryOut plan).2.result = .ok preset ↔
      (session.announce plan).2.result = .ok () ∧
      ∃ registry plugins, session.units.2 = .ok registry ∧
        plan.assemble session.tables registry = .ok plugins ∧ preset = plan.toPreset plugins := by
  rw [carryOut_snd, Traced.bind_result_ok_iff, ← complete_snd, complete_ok_iff]
  exact ⟨fun ⟨_, h⟩ => h, fun h => ⟨(), h⟩⟩

/-- A session keeps the registry that a plan was carried out with. -/
theorem carryOut_registry (hreport : (session.announce plan).2.result = .ok ())
    (hunits : session.units.2 = .ok registry) :
    (session.carryOut plan).1.registry = some registry := by
  obtain ⟨printed, hprinted⟩ := exists_announce_fst session plan
  unfold carryOut
  dsimp only
  rw [hreport]
  dsimp only
  rw [complete_fst, hprinted, units_fst ((units_withPrinted session printed).trans hunits)]

/-! ## Whole builds -/

/-- A plan of a session is made of the options that are valid in it. -/
theorem make_eq (session : Session) (input : OptionsInput) :
    Plan.make session.tables session.normalizer input =
      input.validate session.tables session.writing >>=
        Plan.ofOptions session.tables session.normalizer :=
  rfl

/-- A build whose plan fails has the failure of the plan, prints what the plan prints, and leaves
the session as it was. -/
theorem build_of_plan_error {failure : Failure}
    (h : (Plan.make session.tables session.normalizer input).result = .error failure) :
    session.build input =
      (session, ⟨(Plan.make session.tables session.normalizer input).events, .error failure⟩) := by
  unfold build
  dsimp only
  rw [h]

/-- A build makes a plan and carries it out. -/
theorem build_snd (session : Session) (input : OptionsInput) :
    (session.build input).2 =
      Plan.make session.tables session.normalizer input >>= fun plan =>
        (session.announce plan).2 >>= fun _ =>
          Traced.of session.units.2 >>= session.finish plan := by
  cases hplan : (Plan.make session.tables session.normalizer input).result with
  | error failure => rw [build_of_plan_error hplan, Traced.bind_error hplan]
  | ok plan =>
    rw [Traced.bind_ok hplan, ← carryOut_snd]
    unfold build
    dsimp only
    rw [hplan]

/-- A build succeeds exactly if a plan is made, the report on it can be printed, and it can be
assembled from the registry of the session. -/
theorem build_ok_iff :
    (session.build input).2.result = .ok preset ↔
      ∃ plan, (Plan.make session.tables session.normalizer input).result = .ok plan ∧
        (session.announce plan).2.result = .ok () ∧
        ∃ registry plugins, session.units.2 = .ok registry ∧
          plan.assemble session.tables registry = .ok plugins ∧
          preset = plan.toPreset plugins := by
  cases hplan : (Plan.make session.tables session.normalizer input).result with
  | error failure =>
    rw [build_of_plan_error hplan]
    simp
  | ok plan =>
    unfold build
    dsimp only
    rw [hplan]
    dsimp only
    rw [carryOut_ok_iff]
    simp only [Except.ok.injEq, exists_eq_left']

/-- Whether a build prints no report, or one that can be written. -/
def CanReport (session : Session) (input : OptionsInput) : Prop :=
  ∀ plan, (Plan.make session.tables session.normalizer input).result = .ok plan →
    plan.debug = true → session.debugPrinted = false → plan.IsWritten session.tables session.writing

/-- A build whose plan is made can report if the plan can be announced. -/
theorem canReport_iff
    (hplan : (Plan.make session.tables session.normalizer input).result = .ok plan) :
    session.CanReport input ↔ (session.announce plan).2.result = .ok () := by
  rw [announce_ok_iff]
  constructor
  · exact fun h => h plan hplan
  · intro h other hother
    obtain rfl := Except.ok.inj (hplan.symm.trans hother)
    exact h

/-- Without an integer that is too long, in the tables or in the outside world, every build can
report. -/
theorem canReport_of_short (hshort : session.normalizer.Short)
    (hplugins : session.tables.plugins.IsShort) (hbuiltIns : session.tables.builtIns.IsShort)
    (input : OptionsInput) : session.CanReport input := by
  intro plan hplan _ _
  obtain ⟨options, -, hmade⟩ := Plan.make_ok_iff.1 hplan
  exact hmade.isWritten hshort hplugins hbuiltIns session.writing

/-- A build that cannot report has made a plan. -/
theorem exists_make_of_not_canReport (h : ¬session.CanReport input) :
    ∃ plan, (Plan.make session.tables session.normalizer input).result = .ok plan := by
  cases hplan : (Plan.make session.tables session.normalizer input).result with
  | ok plan => exact ⟨plan, rfl⟩
  | error failure =>
    refine absurd (fun plan hmade => ?_) h
    rw [hplan] at hmade
    cases hmade

/-- A build whose plan cannot be reported on fails as the report does, and leaves the session as it
was but for the report, which is claimed. -/
theorem build_of_not_canReport
    (hplan : (Plan.make session.tables session.normalizer input).result = .ok plan)
    (h : ¬session.CanReport input) :
    ∃ failure, (plan.printReport session.tables session.writing).result = .error failure ∧
      (session.build input).2.result = .error failure ∧
      (session.build input).1 = session.claim.1 := by
  rw [canReport_iff hplan, announce_ok_iff] at h
  obtain ⟨hdebug, h⟩ := Classical.not_imp.1 h
  obtain ⟨hfresh, hwritten⟩ := Classical.not_imp.1 h
  cases hreport : (plan.printReport session.tables session.writing).result with
  | ok _ => exact absurd (Plan.printReport_ok_iff.1 hreport) hwritten
  | error failure =>
    refine ⟨failure, rfl, ?_⟩
    have hannounce : (session.announce plan).2.result = .error failure := by
      rw [announce_snd, if_pos ⟨hdebug, hfresh⟩, hreport]
    have hclaimed : (session.announce plan).1 = session.claim.1 := by
      unfold announce
      rw [if_pos hdebug]
    unfold build carryOut
    dsimp only
    rw [hplan]
    dsimp only
    rw [hannounce]
    exact ⟨rfl, hclaimed⟩

/-- What a build that succeeds goes through: validated options, a plan that is made from them, the
registry that the session keeps, and the units that the plan is assembled to. -/
theorem build_ok (h : (session.build input).2.result = .ok preset) :
    ∃ options plan registry plugins,
      (input.validate session.tables session.writing).result = .ok options ∧
      Plan.MadeFrom session.tables session.normalizer options plan ∧
      session.units.2 = .ok registry ∧ (session.build input).1.registry = some registry ∧
      plan.assemble session.tables registry = .ok plugins ∧ preset = plan.toPreset plugins := by
  obtain ⟨plan, hplan, hreport, registry, plugins, hunits, hplugins, hpreset⟩ := build_ok_iff.1 h
  obtain ⟨options, hoptions, hmade⟩ := Plan.make_ok_iff.1 hplan
  refine ⟨options, plan, registry, plugins, hoptions, hmade, hunits, ?_, hplugins, hpreset⟩
  unfold build
  dsimp only
  rw [hplan]
  exact carryOut_registry hreport hunits

end Session

end TransformPreset
