import TransformPreset.Proofs.Preset.Building

/-!
# Overrides of a preset

For cleanly partitioned tables, which names a preset has depends on nothing but the shape of the
name, the two lists of overrides, and what the tables require: an included name is always there, an
excluded one only if it is included as well, and any other one if it is required
(`Session.build_heedsOverrides`).
-/

namespace TransformPreset

/-! ## Requirement and shape -/

/-- A table requires no name that it does not have. -/
theorem CapabilityTable.Requires.mem_keys {table : CapabilityTable} {normalizer : Normalizer}
    {targets : CanonicalTargets} {name : String} (h : table.Requires normalizer targets name) :
    name ∈ table.keys := by
  obtain ⟨capability, hentry, -⟩ := h
  exact Entries.mem_keys_of_mem hentry

/-- The names of a preset as its overrides and the tables decide them. -/
structure Preset.HeedsOverrides (tables : CapabilityTables) (normalizer : Normalizer)
    (input : OptionsInput) (preset : Preset) : Prop where
  /-- A name is a transformation exactly if it has no built-in's shape and is included, or required
  for the targets and not excluded. -/
  mem_transformations : ∀ name, name ∈ preset.transformations ↔
    isBuiltInName name = false ∧ (name ∈ input.included ∨
      tables.plugins.Requires normalizer preset.targets name ∧ name ∉ input.excluded)
  /-- There is a list of polyfills exactly if they are asked for. -/
  isSome_polyfills : preset.polyfills.isSome = input.useBuiltIns
  /-- A name is a polyfill exactly if it has a built-in's shape and is included, or there by default
  or required for the targets and not excluded. -/
  mem_polyfills : ∀ polyfills, preset.polyfills = some polyfills → ∀ name, name ∈ polyfills ↔
    isBuiltInName name = true ∧ (name ∈ input.included ∨
      (name ∈ tables.defaultInclude ∨ tables.builtIns.Requires normalizer preset.targets name) ∧
        name ∉ input.excluded)
  /-- No transformation comes twice. -/
  nodup_transformations : preset.transformations.Nodup
  /-- No polyfill comes twice. -/
  nodup_polyfills : ∀ polyfills, preset.polyfills = some polyfills → polyfills.Nodup
  /-- No name is both a transformation and a polyfill. -/
  disjoint : ∀ polyfills, preset.polyfills = some polyfills →
    preset.transformations.Disjoint polyfills
  /-- An included name is there, whatever is excluded: among the transformations, or among the
  polyfills if they are asked for. -/
  included : ∀ name ∈ input.included,
    (isBuiltInName name = false → name ∈ preset.transformations) ∧
    (isBuiltInName name = true → ∀ polyfills, preset.polyfills = some polyfills →
      name ∈ polyfills)
  /-- An excluded name that is not included is nowhere. -/
  excluded : ∀ name ∈ input.excluded, name ∉ input.included →
    name ∉ preset.transformations ∧ ∀ polyfills, preset.polyfills = some polyfills →
      name ∉ polyfills

namespace Plan.MadeFrom

variable {tables : CapabilityTables} {normalizer : Normalizer} {options : PresetOptions}
  {plan : Plan}

/-- For cleanly partitioned tables the shape of a name decides whether it is a transformation at
all. -/
theorem mem_transformations_of_clean (h : MadeFrom tables normalizer options plan)
    (hclean : tables.CleanlyPartitioned) (name : String) :
    name ∈ plan.transformations ↔ isBuiltInName name = false ∧ (name ∈ options.included ∨
      tables.plugins.Requires normalizer plan.targets name ∧ name ∉ options.excluded) := by
  rw [h.mem_transformations]
  constructor
  · rintro (⟨hshape, hincluded⟩ | ⟨hrequired, hkept⟩)
    · exact ⟨hshape, .inl hincluded⟩
    · -- A required name is a plugin, so exclusion concerns it.
      have hshape := hclean.plugins name hrequired.mem_keys
      exact ⟨hshape, .inr ⟨hrequired, fun hexcluded => hkept ⟨hshape, hexcluded⟩⟩⟩
  · rintro ⟨hshape, hincluded | ⟨hrequired, hkept⟩⟩
    · exact .inl ⟨hshape, hincluded⟩
    · exact .inr ⟨hrequired, fun hexcluded => hkept hexcluded.2⟩

/-- For cleanly partitioned tables the shape of a name decides whether it is a polyfill at all. -/
theorem mem_polyfills_of_clean (h : MadeFrom tables normalizer options plan)
    (hclean : tables.CleanlyPartitioned) {polyfills : List String}
    (hpolyfills : plan.polyfills = some polyfills) (name : String) :
    name ∈ polyfills ↔ isBuiltInName name = true ∧ (name ∈ options.included ∨
      (name ∈ tables.defaultInclude ∨ tables.builtIns.Requires normalizer plan.targets name) ∧
        name ∉ options.excluded) := by
  rw [h.mem_polyfills hpolyfills]
  constructor
  · rintro (⟨hshape, hincluded⟩ | ⟨hthere, hkept⟩)
    · exact ⟨hshape, .inl hincluded⟩
    · -- A required name is a built-in, and a default one has the shape of one as well.
      have hshape : isBuiltInName name = true := by
        rcases hthere with hrequired | hdefault
        · exact hclean.builtIns name hrequired.mem_keys
        · exact hclean.defaultInclude name hdefault
      exact ⟨hshape, .inr ⟨hthere.symm, fun hexcluded => hkept ⟨hshape, hexcluded⟩⟩⟩
  · rintro ⟨hshape, hincluded | ⟨hthere, hkept⟩⟩
    · exact .inl ⟨hshape, hincluded⟩
    · exact .inr ⟨hthere.symm, fun hexcluded => hkept hexcluded.2⟩

end Plan.MadeFrom

namespace Session

/-- A build from cleanly partitioned tables heeds the overrides of its options. -/
theorem build_heedsOverrides (session : Session) (hclean : session.tables.CleanlyPartitioned)
    (input : OptionsInput) (preset : Preset) (h : (session.build input).2.result = .ok preset) :
    preset.HeedsOverrides session.tables session.normalizer input := by
  obtain ⟨options, plan, registry, plugins, hoptions, hmade, -, -, -, rfl⟩ := build_ok h
  obtain ⟨hincluded, hexcluded, hasked, -, -⟩ := OptionsInput.validate_ok hoptions
  have htransformation := hmade.mem_transformations_of_clean hclean
  have hpolyfill := fun polyfills (hp : plan.polyfills = some polyfills) =>
    hmade.mem_polyfills_of_clean hclean hp
  rw [hincluded, hexcluded] at htransformation hpolyfill
  refine
    { mem_transformations := htransformation
      isSome_polyfills := hmade.isSome_polyfills.trans hasked
      mem_polyfills := hpolyfill
      nodup_transformations := hmade.nodup_transformations
      nodup_polyfills := fun polyfills hp => hmade.nodup_polyfills hp
      disjoint := ?disjoint
      included := ?included
      excluded := ?excluded }
  case disjoint =>
    -- A name in both lists would have a built-in's shape and would not have it.
    intro polyfills hp name hname hpolyfills
    have hplain := ((htransformation name).1 hname).1
    have hshape := ((hpolyfill polyfills hp name).1 hpolyfills).1
    exact Bool.false_ne_true (hplain.symm.trans hshape)
  case included =>
    intro name hname
    refine ⟨fun hshape => (htransformation name).2 ⟨hshape, .inl hname⟩, ?_⟩
    intro hshape polyfills hp
    exact (hpolyfill polyfills hp name).2 ⟨hshape, .inl hname⟩
  case excluded =>
    intro name hname hnot
    constructor
    · intro hmem
      rcases ((htransformation name).1 hmem).2 with hthere | ⟨-, hkept⟩
      · exact hnot hthere
      · exact hkept hname
    · intro polyfills hp hmem
      rcases ((hpolyfill polyfills hp name).1 hmem).2 with hthere | ⟨-, hkept⟩
      · exact hnot hthere
      · exact hkept hname

/-- The shipped tables with overrides of both kinds, one of them included and excluded. -/
theorem shipped_heedsOverrides :
    ∃ preset, ((shipped 18).build (.raw (.map [
        ("targets", .map [("browsers", .text "Chrome 50")]),
        ("include", .list [.text "transform-es2015-classes", .text "es6.map"]),
        ("exclude", .list [.text "transform-es2015-classes", .text "transform-es2015-for-of"]),
        ("use_built_ins", .bool true)]))).2.result = .ok preset ∧
      "transform-es2015-classes" ∈ preset.transformations ∧
      "transform-es2015-for-of" ∉ preset.transformations := by
  refine (exists_ok_of_isSome ?built).imp fun preset hok => ⟨hok, ?present, ?absent⟩
  case built =>
    decide +kernel
  all_goals
    have hheeds := build_heedsOverrides (shipped 18)
      CapabilityTables.shippedTables_cleanlyPartitioned _ preset hok
  case present =>
    exact (hheeds.included _ (by decide)).1 (by decide)
  case absent =>
    exact (hheeds.excluded _ (by decide) (by decide)).1

end Session

end TransformPreset
