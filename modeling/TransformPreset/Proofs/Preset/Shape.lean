import Mathlib.Data.List.Nodup
import TransformPreset.Proofs.Preset.Building

/-!
# The shape of a preset

The units of a preset are those that its names call for: the module transformation first, then the
transformations in order, and last the unit that requires the polyfills. Each is the unit that the
registry of the session holds under the id, whatever has been done to the registry before, because
every registry holds each unit under its own id (`Session.build_wellShaped`). No id comes twice if
the options were read from a value and no unit but those of transformations has a known name.
-/

namespace TransformPreset

/-- The shape of a preset that was built with a registry from options as given. -/
structure Preset.WellShaped (tables : CapabilityTables) (registry : Registry)
    (input : OptionsInput) (preset : Preset) : Prop where
  /-- The module type is the one that is asked for. -/
  moduleType : preset.moduleType = input.moduleType
  /-- A module type that is asked for has a transformation. -/
  mapped : ∀ type, preset.moduleType = some type → (tables.modules.get? type.name).isSome
  /-- There is a list of polyfills exactly if they are asked for. -/
  isSome_polyfills : preset.polyfills.isSome = input.useBuiltIns
  /-- The ids are that of the module transformation, those of the transformations, and that of the
  unit that requires the polyfills. -/
  unitIds : preset.unitIds =
    (preset.moduleType.bind fun type => tables.modules.get? type.name).toList ++
      preset.transformations ++ (if input.useBuiltIns then [polyfillUnitId] else [])
  /-- Each unit carries the options that its call has. -/
  calls : (preset.plugins.map fun configured => (configured.unit.id, configured.options)) =
    unitCalls tables input.loose preset.moduleType preset.transformations preset.polyfills
  /-- Each unit is the one that the registry holds under its id. -/
  held : ∀ configured ∈ preset.plugins,
    registry.unit? configured.unit.id = some configured.unit

/-! ## Ids of calls -/

/-- The ids of what a preset calls for. -/
theorem map_fst_unitCalls (tables : CapabilityTables) (loose : Bool)
    (moduleType : Option ModuleType) (transformations : List String)
    (polyfills : Option (List String)) :
    (unitCalls tables loose moduleType transformations polyfills).map Prod.fst =
      (moduleType.bind fun type => tables.modules.get? type.name).toList ++ transformations ++
        (if polyfills.isSome then [polyfillUnitId] else []) := by
  unfold unitCalls
  rw [List.map_append, List.map_append, List.map_map, List.map_map, List.map_map]
  have hpolyfills : (polyfills.toList.map (Prod.fst ∘ fun names => (polyfillUnitId,
      UnitOptions.polyfills names (decide (regeneratorUnitId ∈ transformations))))) =
      if polyfills.isSome then [polyfillUnitId] else [] := by
    cases polyfills <;> rfl
  rw [hpolyfills]
  congr 2
  · exact List.map_id _
  · exact List.map_id _

/-- No id is called for twice if the transformations are distinct known names and no other unit has
a known name or the id of another. -/
theorem nodup_ids {known transformations : List String} {module? : Option String} {asked : Bool}
    (hnodup : transformations.Nodup) (hknown : ∀ name ∈ transformations, name ∈ known)
    (hmodule : ∀ id, module? = some id → id ∉ known ∧ id ≠ polyfillUnitId)
    (hpolyfills : polyfillUnitId ∉ known) :
    (module?.toList ++ transformations ++ (if asked then [polyfillUnitId] else [])).Nodup := by
  have hlast : (if asked then [polyfillUnitId] else []).Nodup := by
    cases asked
    · exact List.nodup_nil
    · exact List.nodup_singleton _
  have heq : ∀ id ∈ (if asked then [polyfillUnitId] else []), id = polyfillUnitId := by
    cases asked
    · exact fun _ h => absurd h List.not_mem_nil
    · exact fun _ h => List.mem_singleton.1 h
  -- Each part has no id twice, and no part meets one before it.
  refine List.nodup_append.2 ⟨List.nodup_append.2 ⟨?_, hnodup, ?_⟩, hlast, ?_⟩
  · cases module? with
    | none => exact List.nodup_nil
    | some id => exact List.nodup_singleton id
  · intro id hid name hname hsame
    exact (hmodule id (Option.mem_toList.1 hid)).1 (hsame ▸ hknown name hname)
  · intro id hid last hlast hsame
    have hid' : id = polyfillUnitId := hsame.trans (heq last hlast)
    rcases List.mem_append.1 hid with hmodule' | hname
    · exact (hmodule id (Option.mem_toList.1 hmodule')).2 hid'
    · exact hpolyfills (hid' ▸ hknown id hname)

/-- Transformations of a plan from options that were read from a value are known names. -/
theorem Plan.MadeFrom.transformations_subset_knownNames {tables : CapabilityTables}
    {normalizer : Normalizer} {options : PresetOptions} {plan : Plan} {value : Value}
    {writing : Writing} (h : Plan.MadeFrom tables normalizer options plan)
    (hoptions : ((OptionsInput.raw value).validate tables writing).result = .ok options) :
    ∀ name ∈ plan.transformations, name ∈ tables.knownNames := by
  intro name hname
  rcases h.mem_transformations.1 hname with ⟨-, hincluded⟩ | ⟨⟨capability, hentry, -⟩, -⟩
  · exact OptionsInput.included_subset_knownNames hoptions name hincluded
  · exact List.mem_append_left _ (List.mem_append_left _ (Entries.mem_keys_of_mem hentry))

namespace Session

/-- A build from a registry that any run reached gives a preset of the right shape, and the units
are those of the registry that the session keeps. No id comes twice if the options are given as a
value and neither the module transformations nor the unit that requires the polyfills have a known
name or one another's id. -/
theorem build_wellShaped (session : Session)
    (hregistry : ∀ kept, session.registry = some kept → kept.Reachable)
    (input : OptionsInput) (preset : Preset) (h : (session.build input).2.result = .ok preset) :
    (∃ registry, (session.build input).1.registry = some registry ∧
      preset.WellShaped session.tables registry input) ∧
    ((∃ value, input = .raw value) → polyfillUnitId ∉ session.tables.knownNames →
      (∀ id ∈ session.tables.modules.map Prod.snd,
        id ∉ session.tables.knownNames ∧ id ≠ polyfillUnitId) →
      preset.unitIds.Nodup) := by
  obtain ⟨options, plan, registry, plugins, hoptions, hmade, hunits, hkept, hplugins, rfl⟩ :=
    build_ok h
  obtain ⟨-, -, hasked, hmodule, hloose⟩ := OptionsInput.validate_ok hoptions
  -- The registry is sound, so the answers to the calls carry the very ids that are called for.
  have hsound : registry.Sound := units_sound hunits fun kept hkept => (hregistry kept hkept).sound
  obtain ⟨hmapped, hanswers⟩ := Plan.assemble_ok hplugins
  have hcalls := map_of_answers hsound hanswers
  have hpolyfills : plan.polyfills.isSome = input.useBuiltIns :=
    hmade.isSome_polyfills.trans hasked
  have hids : (plan.toPreset plugins).unitIds =
      (plan.moduleType.bind fun type => session.tables.modules.get? type.name).toList ++
        plan.transformations ++ (if input.useBuiltIns then [polyfillUnitId] else []) := by
    rw [← hpolyfills, ← map_fst_unitCalls session.tables plan.loose, ← hcalls, List.map_map]
    rfl
  constructor
  · refine ⟨registry, hkept, ?_⟩
    exact
      { moduleType := hmade.moduleType.trans hmodule
        mapped := hmapped
        isSome_polyfills := hpolyfills
        unitIds := hids
        calls := by rw [← hloose, ← hmade.loose]; exact hcalls
        held := unit?_of_answers hsound hanswers }
  · -- Options read from a value include known names only.
    rintro ⟨value, rfl⟩ hfree hdistinct
    rw [hids]
    refine nodup_ids hmade.nodup_transformations
      (hmade.transformations_subset_knownNames hoptions) ?_ hfree
    intro id hid
    obtain ⟨type, -, hget⟩ := Option.bind_eq_some_iff.1 hid
    exact hdistinct id (List.mem_map.2 ⟨(type.name, id), Entries.mem_of_get? hget, rfl⟩)

/-- A registry of the shipped tables in which one unit was replaced: the preset has no id twice, and
its units are those of the registry. -/
theorem shipped_wellShaped :
    ∃ preset, ({ shipped 18 with
        registry := some (({} : Registry).run [.registerBundle (builtInUnits shippedTables),
          .replace ⟨"transform-es2015-for-of", "for-of-in-another-package"⟩]) } : Session).build
        (.raw (.map [("targets", .map [("browsers", .text "Chrome 50")]),
          ("use_built_ins", .bool true)])) |>.2.result = .ok preset ∧
      preset.polyfills.isSome = true ∧ preset.unitIds.Nodup := by
  refine (exists_ok_of_isSome ?built).imp fun preset hok => ⟨hok, ?polyfills, ?distinct⟩
  case built =>
    decide +kernel
  all_goals
    obtain ⟨⟨registry, -, hshape⟩, hdistinct⟩ := build_wellShaped _
      (by rintro kept ⟨⟩; exact Registry.Reachable.empty _) _ preset hok
  case polyfills =>
    exact hshape.isSome_polyfills
  case distinct =>
    exact hdistinct ⟨_, rfl⟩ (by decide +kernel) (by decide +kernel)

end Session

end TransformPreset
