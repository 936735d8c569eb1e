import TransformPreset.Proofs.Capability.Requirement
import TransformPreset.Proofs.Preset.Building
import TransformPreset.Proofs.Target.Widening

/-!
# More browser queries

Supporting more browsers takes no name away. Further queries widen the canonical targets, and a
target that lacks a capability still lacks it with a lesser version, so that what is required stays
required (`CapabilityTable.Requires.widen`). Where nothing is targeted yet, everything is required,
and a first target may take names away; so the law is about targets that are not empty
(`Session.build_furtherQueries`).
-/

namespace TransformPreset

/-! ## Requirement for wider targets -/

section

variable {capability : Entries Value} {canonical wider : CanonicalTargets}

/-- A version that lacks a capability still lacks it where it is lowered. -/
theorem lacks_of_loweredTo {environment : String} {value least : Value}
    (hlowered : value.LoweredTo least) (h : lacks capability environment value = .ok true) :
    lacks capability environment least = .ok true := by
  rcases hlowered with rfl | ⟨m, k, hle, rfl, rfl⟩
  · exact h
  rw [lacks_eq_true_iff] at h ⊢
  refine h.imp_right ?_
  rintro ⟨implemented, a, b, hfound, ha, hb, hlt⟩
  obtain rfl : .int k = a := Option.some.inj ha
  refine ⟨implemented, .int m, b, hfound, rfl, hb, ?_⟩
  rcases Int.lt_or_eq_of_le hle with hless | rfl
  · have hmk : (Number.int m).lt (.int k) = true := by
      rw [Number.int_lt_int, decide_eq_true hless]
    exact Number.lt_trans hmk hlt
  · exact hlt

/-- A capability that is required for some targets is not found to be dispensable for wider ones. -/
theorem CanonicalTargets.WidenedBy.requiredFor_ne (hwidened : canonical.WidenedBy wider)
    (hdistinct : canonical.keys.Nodup) (hsome : canonical ≠ [])
    (h : requiredFor writing canonical capability = .ok true) :
    requiredFor writing wider capability ≠ .ok false := by
  intro hdispensable
  obtain ⟨-, -, hnone⟩ := requiredFor_eq_false_iff.1 hdispensable
  obtain ⟨⟨environment, value⟩, hentry, hlacks⟩ := exists_lacks_of_requiredFor hsome h
  obtain ⟨least, hleast, hlowered⟩ :=
    hwidened environment value (Entries.get?_of_mem hdistinct hentry)
  have hlacks' : lacks capability environment least = .ok true :=
    lacks_of_loweredTo hlowered hlacks
  rw [hnone _ (Entries.mem_of_get? hleast)] at hlacks'
  cases hlacks'

end

/-- What a table requires for some canonical targets it requires for wider ones, if it can be
selected from. -/
theorem CapabilityTable.Requires.widen {normalizer : Normalizer} {spec spec' : TargetSpec}
    {canonical wider : CanonicalTargets}
    (h : (normalizer.resolveSpec spec).result = .ok canonical) (hspec : spec.IsRead)
    (hwider : (normalizer.resolveSpec spec').result = .ok wider) (hspec' : spec'.IsRead)
    (hwidened : canonical.WidenedBy wider) (hsome : canonical ≠ [])
    {table : CapabilityTable} {names : List String}
    (hselected : (selectRequired normalizer (.map wider) table.values).result = .ok names)
    {name : String} (hrequires : table.Requires normalizer canonical name) :
    table.Requires normalizer wider name := by
  obtain ⟨capability, hentry, hrequired⟩ := hrequires
  by_contra hnot
  -- Without a need of it, the capability has an answer for the wider targets, which is no.
  have hdispensable := not_required_of_selectRequired hselected hentry hnot
  exact hwidened.requiredFor_ne (Normalizer.nodup_resolveSpec h hspec.nodup) hsome
    (requiredFor_of_isRequired h hspec.namesPlainly hrequired)
    (requiredFor_of_isRequired hwider hspec'.namesPlainly hdispensable)

/-! ## Options with further queries -/

namespace OptionsInput

/-- Options whose targets hold a list of browser queries, and the same options with further queries
behind those: as a table of targets, as a specification of targets, and as validated options. -/
inductive AsksFurther (queries more : List String) : OptionsInput → OptionsInput → Prop
  /-- The targets are a table. -/
  | table (options targets : Entries Value)
      (htargets : options.get? "targets" = some (.map targets))
      (hdistinct : targets.keys.Nodup)
      (hqueries : targets.get? browsersKey = some (.list (queries.map .text))) :
      AsksFurther queries more (.raw (.map options))
        (.raw (.map (options.insert "targets" (.map
          (targets.insert browsersKey (.list ((queries ++ more).map .text)))))))
  /-- The targets are a specification. -/
  | specification (options : Entries Value) (spec : TargetSpec)
      (htargets : options.get? "targets" = some (.spec spec)) (hread : spec.IsRead)
      (hqueries : spec.browsers = some queries) :
      AsksFurther queries more (.raw (.map options))
        (.raw (.map (options.insert "targets"
          (.spec { spec with browsers := some (queries ++ more) }))))
  /-- The options are validated. -/
  | validated (options : PresetOptions) (hread : options.targets.IsRead)
      (hqueries : options.targets.browsers = some queries) :
      AsksFurther queries more (.validated options)
        (.validated { options with
          targets := { options.targets with browsers := some (queries ++ more) } })

namespace AsksFurther

variable {queries more : List String} {input wider : OptionsInput} {tables : CapabilityTables}
  {writing : Writing} {options options' : PresetOptions}

/-- Further queries leave the other options. -/
theorem overrides_eq (h : AsksFurther queries more input wider) :
    wider.included = input.included ∧ wider.excluded = input.excluded ∧
      wider.useBuiltIns = input.useBuiltIns := by
  have hother : ∀ (options : Entries Value) (targets : Value) (key : String), "targets" ≠ key →
      (Value.map (options.insert "targets" targets)).option? key =
        (Value.map options).option? key := by
    intro options targets key hkey
    show (options.insert "targets" targets).get? key = options.get? key
    rw [Entries.get?_insert, if_neg hkey]
  cases h with
  | table options targets =>
    unfold included excluded useBuiltIns Value.namesAt Value.switchAt
    dsimp only
    rw [hother _ _ _ (by decide), hother _ _ _ (by decide), hother _ _ _ (by decide)]
    exact ⟨rfl, rfl, rfl⟩
  | specification options spec =>
    unfold included excluded useBuiltIns Value.namesAt Value.switchAt
    dsimp only
    rw [hother _ _ _ (by decide), hother _ _ _ (by decide), hother _ _ _ (by decide)]
    exact ⟨rfl, rfl, rfl⟩
  | validated options => exact ⟨rfl, rfl, rfl⟩

/-- The validated targets have been read, with the queries and with the further ones. -/
theorem targets_of_validate (h : AsksFurther queries more input wider)
    (hvalid : (input.validate tables writing).result = .ok options)
    (hvalid' : (wider.validate tables writing).result = .ok options') :
    options.targets.IsRead ∧ options.targets.browsers = some queries ∧
      options'.targets = { options.targets with browsers := some (queries ++ more) } := by
  cases h with
  | validated given hread hqueries =>
    obtain rfl := Except.ok.inj hvalid
    obtain rfl := Except.ok.inj hvalid'
    exact ⟨hread, hqueries, rfl⟩
  | table given targets htargets hdistinct hqueries =>
    have hread := readTargets_of_validate hvalid
    rw [PresetOptions.readTargets_map htargets] at hread
    have hread' := readTargets_of_validate hvalid'
    rw [PresetOptions.readTargets_map (by rw [Entries.get?_insert, if_pos rfl])] at hread'
    have hthere : browsersKey ∈ targets.keys :=
      Entries.mem_keys_of_mem (Entries.mem_of_get? hqueries)
    have hwide := TargetSpec.readEntries_insert_queries hdistinct hthere hread (queries ++ more)
    refine ⟨⟨writing, targets, hread⟩, ?_, Except.ok.inj (hread'.symm.trans hwide)⟩
    rw [TargetSpec.browsers_of_readEntries hread hdistinct, hqueries, Option.map_some,
      TargetSpec.queries?_list]
    rfl
  | specification given spec htargets hread hqueries =>
    have hspec := readTargets_of_validate hvalid
    have hspec' := readTargets_of_validate hvalid'
    rw [readTargets, htargets] at hspec
    rw [readTargets, Entries.get?_insert, if_pos rfl] at hspec'
    obtain rfl : spec = options.targets := Except.ok.inj hspec
    exact ⟨hread, hqueries, (Except.ok.inj hspec').symm⟩

end AsksFurther

end OptionsInput

/-! ## Builds with further queries -/

/-- A plan for wider targets, under the same overrides, has all names of the plan. -/
theorem Plan.MadeFrom.subset_of_widenedBy {tables : CapabilityTables} {normalizer : Normalizer}
    {options options' : PresetOptions} {plan plan' : Plan}
    (hmade : MadeFrom tables normalizer options plan)
    (hmade' : MadeFrom tables normalizer options' plan')
    (hincluded : options'.included = options.included)
    (hexcluded : options'.excluded = options.excluded) (hread : options.targets.IsRead)
    (hread' : options'.targets.IsRead) (hwidened : plan.targets.WidenedBy plan'.targets)
    (hsome : plan.targets ≠ []) :
    plan.transformations ⊆ plan'.transformations ∧
      ∀ polyfills polyfills', plan.polyfills = some polyfills →
        plan'.polyfills = some polyfills' → polyfills ⊆ polyfills' := by
  have hrequires : ∀ {table : CapabilityTable} {names : List String},
      (selectRequired normalizer (.map plan'.targets) table.values).result = .ok names →
        ∀ {name}, table.Requires normalizer plan.targets name →
          table.Requires normalizer plan'.targets name := fun hselected _ =>
    CapabilityTable.Requires.widen hmade.targets hread hmade'.targets hread' hwidened hsome
      hselected
  constructor
  · intro name hname
    obtain ⟨required, hrequired, -⟩ := hmade'.transformations_ok
    rw [hmade'.mem_transformations, hincluded, hexcluded]
    exact (hmade.mem_transformations.1 hname).imp_right (And.imp_left (hrequires hrequired))
  · intro polyfills polyfills' hpolyfills hpolyfills' name hname
    obtain ⟨-, required, hrequired, -⟩ := hmade'.polyfills_ok hpolyfills'
    rw [hmade'.mem_polyfills hpolyfills', hincluded, hexcluded]
    exact ((hmade.mem_polyfills hpolyfills).1 hname).imp_right
      (And.imp_left (Or.imp_left (hrequires hrequired)))

namespace Session

/-- Further browser queries take no transformation and no polyfill away, if something is targeted
without them. -/
theorem build_furtherQueries (first second : Session) (htables : second.tables = first.tables)
    (hnormalizer : second.normalizer = first.normalizer)
    (hresolver : first.resolve = literalReleases) (queries more : List String)
    (input wider : OptionsInput) (hfurther : OptionsInput.AsksFurther queries more input wider)
    (preset widerPreset : Preset) (h : (first.build input).2.result = .ok preset)
    (hwider : (second.build wider).2.result = .ok widerPreset) (hsome : preset.targets ≠ []) :
    preset.transformations ⊆ widerPreset.transformations ∧
      preset.polyfills.isSome = input.useBuiltIns ∧
      ∀ polyfills, preset.polyfills = some polyfills →
        ∃ widerPolyfills, widerPreset.polyfills = some widerPolyfills ∧
          polyfills ⊆ widerPolyfills := by
  obtain ⟨options, plan, _, plugins, hvalid, hmade, -, -, -, rfl⟩ := build_ok h
  obtain ⟨options', plan', _, plugins', hvalid', hmade', -, -, -, rfl⟩ := build_ok hwider
  have hwriting : second.writing = first.writing := congrArg Normalizer.writing hnormalizer
  rw [htables, hwriting] at hvalid'
  rw [htables, hnormalizer] at hmade'
  obtain ⟨hincluded, hexcluded, hasked, -, -⟩ := OptionsInput.validate_ok hvalid
  obtain ⟨hincluded', hexcluded', hasked', -, -⟩ := OptionsInput.validate_ok hvalid'
  obtain ⟨hi, he, hu⟩ := hfurther.overrides_eq
  obtain ⟨hread, hqueries, htargets⟩ := hfurther.targets_of_validate hvalid hvalid'
  have hread' : options'.targets.IsRead := htargets ▸ hread.withQueries (queries ++ more)
  have hwidened : plan.targets.WidenedBy plan'.targets :=
    Normalizer.resolveSpec_widenedBy hresolver hread hqueries hmade.targets
      (htargets ▸ hmade'.targets)
  obtain ⟨htransformations, hpolyfills⟩ := hmade.subset_of_widenedBy hmade'
    (by rw [hincluded', hi, hincluded]) (by rw [hexcluded', he, hexcluded]) hread hread' hwidened
    hsome
  have hsame : plan'.polyfills.isSome = plan.polyfills.isSome := by
    rw [hmade'.isSome_polyfills, hasked', hu, ← hasked, hmade.isSome_polyfills]
  refine ⟨htransformations, hmade.isSome_polyfills.trans hasked, fun polyfills hgiven => ?_⟩
  obtain ⟨widerPolyfills, hwiderPolyfills⟩ : ∃ names, plan'.polyfills = some names := by
    rw [← Option.isSome_iff_exists, hsame]
    exact Option.isSome_iff_exists.2 ⟨polyfills, hgiven⟩
  exact ⟨widerPolyfills, hwiderPolyfills, hpolyfills _ _ hgiven hwiderPolyfills⟩

/-- Options for a runtime and for browsers. -/
def optionsFor (queries : List String) : Entries Value :=
  [("use_built_ins", .bool true),
    ("targets", .map [("node", .int 6), ("browsers", .list (queries.map .text))])]

/-- A chrome that has generators is followed by one that lacks them. -/
theorem shipped_furtherQueries :
    ∃ preset wider,
      ((shipped 18).build (.raw (.map (optionsFor ["chrome 60"])))).2.result = .ok preset ∧
      ((shipped 18).build (.raw (.map (optionsFor ["chrome 60", "chrome 30"])))).2.result =
        .ok wider ∧
      preset.transformations ⊆ wider.transformations ∧
      "transform-exponentiation-operator" ∈ preset.transformations ∧
      "transform-exponentiation-operator" ∈ wider.transformations := by
  have hseen : ((shipped 18).build (.raw (.map (optionsFor ["chrome 60"])))).2.result.toOption.any
      (fun preset => !preset.targets.isEmpty &&
        preset.transformations.contains "transform-exponentiation-operator") = true := by
    decide +kernel
  obtain ⟨preset, hfound, hchecks⟩ := (Option.any_eq_true _ _).1 hseen
  have hpreset := ok_of_toOption hfound
  obtain ⟨hsome, hmem⟩ := Bool.and_eq_true_iff.1 hchecks
  obtain ⟨wider, hwider⟩ : ∃ wider,
      ((shipped 18).build (.raw (.map (optionsFor ["chrome 60", "chrome 30"])))).2.result =
        .ok wider :=
    exists_ok_of_isSome (by decide +kernel)
  have hfurther : OptionsInput.AsksFurther ["chrome 60"] ["chrome 30"]
      (.raw (.map (optionsFor ["chrome 60"])))
      (.raw (.map (optionsFor ["chrome 60", "chrome 30"]))) :=
    .table (optionsFor ["chrome 60"])
      [("node", .int 6), ("browsers", .list [.text "chrome 60"])] rfl (by decide) rfl
  obtain ⟨hsubset, -⟩ := build_furtherQueries (shipped 18) (shipped 18) rfl rfl rfl
    ["chrome 60"] ["chrome 30"] _ _ hfurther preset wider hpreset hwider fun hnone => by
      rw [hnone] at hsome
      cases hsome
  have hthere := List.contains_iff_mem.1 hmem
  exact ⟨preset, wider, hpreset, hwider, hsubset, hthere, hsubset hthere⟩

end Session

end TransformPreset
