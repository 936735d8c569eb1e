import TransformPreset.Proofs.Capability.Composition
import TransformPreset.Proofs.Capability.Selection
import TransformPreset.Proofs.Preset.Options
import TransformPreset.Proofs.Target.Canonical

/-!
# What a plan is made of

A plan is made if its options are valid, its targets can be resolved, and both selections have an
answer; `Plan.MadeFrom` says what its fields are then. The names of a plan follow from that: an
included name is always there, an excluded one only if it is included, and any other one if its
table requires it (`MadeFrom.mem_transformations`, `MadeFrom.mem_polyfills`).
-/

namespace TransformPreset

namespace Plan

variable {tables : CapabilityTables} {normalizer : Normalizer} {options : PresetOptions}
  {plan : Plan}

/-! ## Making a plan -/

/-- A plan that is made from validated options, field by field. -/
structure MadeFrom (tables : CapabilityTables) (normalizer : Normalizer) (options : PresetOptions)
    (plan : Plan) : Prop where
  /-- The targets are what the specification resolves to. -/
  targets : (normalizer.resolveSpec options.targets).result = .ok plan.targets
  /-- The transformations are selected for these targets. -/
  transformations :
    (selectTransformations tables normalizer plan.targets options).result = .ok plan.transformations
  /-- The polyfills are selected for these targets, if they are asked for. -/
  polyfills : (selectPolyfills tables normalizer plan.targets options).result = .ok plan.polyfills
  /-- The module type is that of the options. -/
  moduleType : plan.moduleType = options.moduleType
  /-- Transformations may be loose if the options say so. -/
  loose : plan.loose = options.loose
  /-- The report is asked for if the options say so. -/
  debug : plan.debug = options.debug

/-- A plan of validated options is the one that is made from them. -/
theorem ofOptions_ok_iff :
    (ofOptions tables normalizer options).result = .ok plan ↔
      MadeFrom tables normalizer options plan := by
  unfold ofOptions
  simp only [Traced.bind_result_ok_iff, Traced.log_result, Traced.pure_result, Except.ok.injEq,
    true_and, exists_const]
  constructor
  · rintro ⟨targets, htargets, transformations, htransformations, polyfills, hpolyfills, rfl⟩
    exact ⟨htargets, htransformations, hpolyfills, rfl, rfl, rfl⟩
  · rintro ⟨htargets, htransformations, hpolyfills, hmodule, hloose, hdebug⟩
    refine ⟨_, htargets, _, htransformations, _, hpolyfills, ?_⟩
    rw [← hmodule, ← hloose, ← hdebug]

/-- A plan is made exactly if the options are valid and it is made from the validated ones. -/
theorem make_ok_iff {input : OptionsInput} :
    (make tables normalizer input).result = .ok plan ↔
      ∃ options, (input.validate tables normalizer.writing).result = .ok options ∧
        MadeFrom tables normalizer options plan := by
  unfold make
  simp only [Traced.bind_result_ok_iff, ofOptions_ok_iff]

namespace MadeFrom

/-! ## The names of a plan -/

/-- The names that the table requires for the targets of a plan, and the transformations that are
composed from them. -/
theorem transformations_ok (h : MadeFrom tables normalizer options plan) :
    ∃ required, (selectRequired normalizer (.map plan.targets) tables.plugins.values).result =
        .ok required ∧
      plan.transformations = excludeThenInclude required
        (Overrides.ofNames options.included).plugins
        (Overrides.ofNames options.excluded).plugins := by
  obtain ⟨required, hrequired, hcomposed⟩ := Traced.bind_result_ok_iff.1 h.transformations
  rw [composeTransformations_result, Except.ok.injEq] at hcomposed
  exact ⟨required, hrequired, hcomposed.symm⟩

/-- The names that the table of built-ins requires for the targets of a plan, and the polyfills that
are composed from them. -/
theorem polyfills_ok (h : MadeFrom tables normalizer options plan) {polyfills : List String}
    (hpolyfills : plan.polyfills = some polyfills) :
    options.useBuiltIns = true ∧
    ∃ required, (selectRequired normalizer (.map plan.targets) tables.builtIns.values).result =
        .ok required ∧
      polyfills = excludeThenInclude (required ++ tables.defaultInclude)
        (Overrides.ofNames options.included).builtIns
        (Overrides.ofNames options.excluded).builtIns := by
  have hselect := h.polyfills
  rw [hpolyfills] at hselect
  unfold selectPolyfills at hselect
  split at hselect
  · rename_i hasked
    obtain ⟨required, hrequired, hselect⟩ := Traced.bind_result_ok_iff.1 hselect
    obtain ⟨names, hcomposed, hnames⟩ := Traced.bind_result_ok_iff.1 hselect
    rw [composePolyfills_result, Except.ok.injEq] at hcomposed
    rw [Traced.pure_result, Except.ok.injEq, Option.some.injEq] at hnames
    exact ⟨hasked, required, hrequired, by rw [← hnames, hcomposed]⟩
  · cases hselect

/-- A plan has a list of polyfills exactly if they are asked for. -/
theorem isSome_polyfills (h : MadeFrom tables normalizer options plan) :
    plan.polyfills.isSome = options.useBuiltIns := by
  cases hpolyfills : plan.polyfills with
  | some polyfills => rw [(h.polyfills_ok hpolyfills).1, Option.isSome_some]
  | none =>
    have hselect := h.polyfills
    rw [hpolyfills] at hselect
    unfold selectPolyfills at hselect
    split at hselect
    · obtain ⟨required, -, hselect⟩ := Traced.bind_result_ok_iff.1 hselect
      obtain ⟨names, -, hnames⟩ := Traced.bind_result_ok_iff.1 hselect
      cases hnames
    · rename_i hasked
      rw [Bool.not_eq_true] at hasked
      rw [hasked, Option.isSome_none]

/-- A transformation of a plan is included, or required and not excluded. -/
theorem mem_transformations (h : MadeFrom tables normalizer options plan) {name : String} :
    name ∈ plan.transformations ↔
      isBuiltInName name = false ∧ name ∈ options.included ∨
      tables.plugins.Requires normalizer plan.targets name ∧
        ¬(isBuiltInName name = false ∧ name ∈ options.excluded) := by
  obtain ⟨required, hrequired, hnames⟩ := h.transformations_ok
  rw [hnames, mem_excludeThenInclude, mem_plugins_ofNames, mem_plugins_ofNames,
    mem_selectRequired_values hrequired]

/-- A polyfill of a plan is included, or required or there by default, and not excluded. -/
theorem mem_polyfills (h : MadeFrom tables normalizer options plan) {polyfills : List String}
    (hpolyfills : plan.polyfills = some polyfills) {name : String} :
    name ∈ polyfills ↔
      isBuiltInName name = true ∧ name ∈ options.included ∨
      (tables.builtIns.Requires normalizer plan.targets name ∨ name ∈ tables.defaultInclude) ∧
        ¬(isBuiltInName name = true ∧ name ∈ options.excluded) := by
  obtain ⟨-, required, hrequired, hnames⟩ := h.polyfills_ok hpolyfills
  rw [hnames, mem_excludeThenInclude, mem_builtIns_ofNames, mem_builtIns_ofNames, List.mem_append,
    mem_selectRequired_values hrequired]

/-- No transformation of a plan comes twice. -/
theorem nodup_transformations (h : MadeFrom tables normalizer options plan) :
    plan.transformations.Nodup := by
  obtain ⟨required, -, hnames⟩ := h.transformations_ok
  rw [hnames]
  exact nodup_excludeThenInclude _ _ _

/-- No polyfill of a plan comes twice. -/
theorem nodup_polyfills (h : MadeFrom tables normalizer options plan) {polyfills : List String}
    (hpolyfills : plan.polyfills = some polyfills) : polyfills.Nodup := by
  obtain ⟨-, required, -, hnames⟩ := h.polyfills_ok hpolyfills
  rw [hnames]
  exact nodup_excludeThenInclude _ _ _

end MadeFrom

/-! ## Plans that can be made -/

/-- The transformations can be selected for comparable targets. -/
theorem exists_selectTransformations {targets : CanonicalTargets} (h : Comparable targets)
    (tables : CapabilityTables) (normalizer : Normalizer) (options : PresetOptions) :
    ∃ names, (selectTransformations tables normalizer targets options).result = .ok names := by
  obtain ⟨required, hrequired⟩ := h.selectRequired_ok normalizer tables.plugins
  exact ⟨_, Traced.bind_result_ok_iff.2 ⟨required, hrequired, composeTransformations_result _ _ _⟩⟩

/-- The polyfills can be selected for comparable targets. -/
theorem exists_selectPolyfills {targets : CanonicalTargets} (h : Comparable targets)
    (tables : CapabilityTables) (normalizer : Normalizer) (options : PresetOptions) :
    ∃ names, (selectPolyfills tables normalizer targets options).result = .ok names := by
  unfold selectPolyfills
  split
  · obtain ⟨required, hrequired⟩ := h.selectRequired_ok normalizer tables.builtIns
    simp only [Traced.bind_result_ok_iff, hrequired, composePolyfills_result, Traced.pure_result,
      Except.ok.injEq, exists_eq_left']
    exact ⟨_, rfl⟩
  · exact ⟨none, Traced.pure_result _⟩

/-- A plan is made from options whose targets resolve to comparable ones. -/
theorem exists_madeFrom {targets : CanonicalTargets}
    (hresolve : (normalizer.resolveSpec options.targets).result = .ok targets)
    (h : Comparable targets) (tables : CapabilityTables) :
    ∃ plan, MadeFrom tables normalizer options plan := by
  obtain ⟨transformations, htransformations⟩ :=
    exists_selectTransformations h tables normalizer options
  obtain ⟨polyfills, hpolyfills⟩ := exists_selectPolyfills h tables normalizer options
  exact ⟨⟨targets, options.moduleType, transformations, polyfills, options.loose, options.debug⟩,
    hresolve, htransformations, hpolyfills, rfl, rfl, rfl⟩

/-- If all targets that can be resolved are comparable, a plan fails exactly as the first of its two
stages that fails: the validation of the options, or the resolution of the targets. -/
theorem make_error_iff {input : OptionsInput} {failure : Failure}
    (h : ∀ options targets, (input.validate tables normalizer.writing).result = .ok options →
      (normalizer.resolveSpec options.targets).result = .ok targets → Comparable targets) :
    (make tables normalizer input).result = .error failure ↔
      (input.validate tables normalizer.writing).result = .error failure ∨
      ∃ options, (input.validate tables normalizer.writing).result = .ok options ∧
        (normalizer.resolveSpec options.targets).result = .error failure := by
  unfold make
  rw [Traced.bind_result_error_iff]
  refine or_congr_right (exists_congr fun options => and_congr_right fun hoptions => ?_)
  constructor
  · intro herror
    cases hresolve : (normalizer.resolveSpec options.targets).result with
    | error other =>
      rw [ofOptions, Traced.bind_result_error_iff, hresolve] at herror
      rcases herror with herror | ⟨targets, hok, -⟩
      · exact herror
      · cases hok
    | ok targets =>
      -- The targets are comparable, so that nothing after their resolution can fail.
      obtain ⟨plan, hmade⟩ := exists_madeFrom hresolve (h options targets hoptions hresolve) tables
      rw [ofOptions_ok_iff.2 hmade] at herror
      cases herror
  · intro herror
    exact Traced.bind_result_error_iff.2 (.inl herror)

/-! ## Printed lines -/

/-- Selection prints nothing but what asking for the running version prints. -/
theorem selectRequired_printsAmong (normalizer : Normalizer) (targets : Value)
    (table : Entries (Entries Value)) :
    (selectRequired normalizer targets table).PrintsAmong normalizer.nodeVersion.lines := by
  induction table with
  | nil => exact (Traced.onlyLogs_pure _).silent.printsAmong _
  | cons entry rest ih =>
    refine Traced.PrintsAmong.bind ?_ fun _ _ =>
      ih.bind fun _ _ => (Traced.onlyLogs_pure _).silent.printsAmong _
    refine Traced.PrintsAmong.bind ?_ fun _ _ => (Traced.onlyLogs_of _).silent.printsAmong _
    -- For each capability the targets may be made canonical once more.
    unfold comparableTargets
    split
    · split
      · exact normalizer.normalize_printsAmong _
      · exact (Traced.onlyLogs_pure _).silent.printsAmong _
    · exact normalizer.normalize_printsAmong _
    · split
      · exact normalizer.normalize_printsAmong _
      · exact (Traced.onlyLogs_fail _).silent.printsAmong _
      · exact (Traced.onlyLogs_fail _).silent.printsAmong _

/-- The selection of transformations prints nothing else. -/
theorem selectTransformations_printsAmong (tables : CapabilityTables) (normalizer : Normalizer)
    (targets : CanonicalTargets) (options : PresetOptions) :
    (selectTransformations tables normalizer targets options).PrintsAmong
      normalizer.nodeVersion.lines :=
  (selectRequired_printsAmong _ _ _).bind fun _ _ =>
    (composeTransformations_onlyLogs _ _ _).silent.printsAmong _

/-- Nor does the selection of polyfills, if there is one. -/
theorem selectPolyfills_printsAmong (tables : CapabilityTables) (normalizer : Normalizer)
    (targets : CanonicalTargets) (options : PresetOptions) :
    (selectPolyfills tables normalizer targets options).PrintsAmong
      normalizer.nodeVersion.lines := by
  unfold selectPolyfills
  split
  · exact (selectRequired_printsAmong _ _ _).bind fun _ _ =>
      Traced.PrintsAmong.bind ((composePolyfills_onlyLogs _ _ _ _).silent.printsAmong _) fun _ _ =>
        (Traced.onlyLogs_pure _).silent.printsAmong _
  · exact (Traced.onlyLogs_pure _).silent.printsAmong _

/-- Making a plan prints nothing but what asking for the running version prints. -/
theorem make_printsAmong (tables : CapabilityTables) (normalizer : Normalizer)
    (input : OptionsInput) :
    (make tables normalizer input).PrintsAmong normalizer.nodeVersion.lines := by
  refine ((OptionsInput.validate_onlyLogs tables _ input).silent.printsAmong _).bind
    fun options _ => ?_
  refine (normalizer.resolveSpec_printsAmong _).bind fun targets _ => ?_
  refine ((Traced.onlyLogs_log _ _ _).silent.printsAmong _).bind fun _ _ => ?_
  refine (selectTransformations_printsAmong _ _ _ _).bind fun _ _ => ?_
  exact (selectPolyfills_printsAmong _ _ _ _).bind fun _ _ =>
    (Traced.onlyLogs_pure _).silent.printsAmong _

end Plan

end TransformPreset
