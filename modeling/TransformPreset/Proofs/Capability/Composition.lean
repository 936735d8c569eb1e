import TransformPreset.Capability.Composition
import TransformPreset.Capability.Shipped
import TransformPreset.Proofs.Outcome

/-!
# Which names are composed

The composed names are the required ones that are not excluded and the included ones, each once.
Names that override transformations and names that override built-ins never meet: the shape of a
name decides which of the two it is. Tables are cleanly partitioned if their names have the shape of
the part that they stand in.
-/

namespace TransformPreset

/-! ## Exclusion, then inclusion -/

/-- A composed name is included, or is among the names and not excluded. -/
theorem mem_excludeThenInclude {names included excluded : List String} {name : String} :
    name ∈ excludeThenInclude names included excluded ↔
      name ∈ included ∨ name ∈ names ∧ name ∉ excluded := by
  unfold excludeThenInclude
  rw [mem_distinct, List.mem_append, List.mem_filter, Bool.not_eq_true', ← Bool.not_eq_true,
    List.contains_iff_mem, or_comm]

/-- No name is composed twice. -/
theorem nodup_excludeThenInclude (names included excluded : List String) :
    (excludeThenInclude names included excluded).Nodup :=
  nodup_distinct _

/-! ## The two parts of overrides -/

/-- A name overrides a transformation exactly if it is given and has no built-in's shape. -/
theorem mem_plugins_ofNames {names : List String} {name : String} :
    name ∈ (Overrides.ofNames names).plugins ↔ isBuiltInName name = false ∧ name ∈ names := by
  simp [Overrides.ofNames, and_comm]

/-- A name overrides a built-in exactly if it is given and has a built-in's shape. -/
theorem mem_builtIns_ofNames {names : List String} {name : String} :
    name ∈ (Overrides.ofNames names).builtIns ↔ isBuiltInName name = true ∧ name ∈ names := by
  simp [Overrides.ofNames, and_comm]

/-! ## The two compositions -/

/-- The composition of transformations cannot fail. -/
theorem composeTransformations_result (required : List String) (included excluded : Overrides) :
    (composeTransformations required included excluded).result =
      .ok (excludeThenInclude required included.plugins excluded.plugins) := rfl

/-- The composition of polyfills cannot fail. -/
theorem composePolyfills_result (required defaultInclude : List String)
    (included excluded : Overrides) :
    (composePolyfills required defaultInclude included excluded).result =
      .ok (excludeThenInclude (required ++ defaultInclude) included.builtIns
        excluded.builtIns) := rfl

theorem composeTransformations_onlyLogs (required : List String) (included excluded : Overrides) :
    (composeTransformations required included excluded).OnlyLogs :=
  (Traced.onlyLogs_log _ _ _).bind fun _ _ => Traced.onlyLogs_pure _

theorem composePolyfills_onlyLogs (required defaultInclude : List String)
    (included excluded : Overrides) :
    (composePolyfills required defaultInclude included excluded).OnlyLogs :=
  (Traced.onlyLogs_log _ _ _).bind fun _ _ => Traced.onlyLogs_pure _

/-! ## Cleanly partitioned tables -/

/-- Tables in which the shape of a name tells the part that it stands in. -/
structure CapabilityTables.CleanlyPartitioned (tables : CapabilityTables) : Prop where
  /-- No transformation has a built-in's name. -/
  plugins : ∀ name ∈ tables.plugins.keys, isBuiltInName name = false
  /-- Every built-in of the table has a built-in's name. -/
  builtIns : ∀ name ∈ tables.builtIns.keys, isBuiltInName name = true
  /-- Everything that is always included has a built-in's name. -/
  defaultInclude : ∀ name ∈ tables.defaultInclude, isBuiltInName name = true

namespace CapabilityTables

instance (tables : CapabilityTables) : Decidable tables.CleanlyPartitioned :=
  decidable_of_iff
    ((∀ name ∈ tables.plugins.keys, isBuiltInName name = false) ∧
      (∀ name ∈ tables.builtIns.keys, isBuiltInName name = true) ∧
      ∀ name ∈ tables.defaultInclude, isBuiltInName name = true)
    ⟨fun ⟨h1, h2, h3⟩ => ⟨h1, h2, h3⟩, fun h => ⟨h.plugins, h.builtIns, h.defaultInclude⟩⟩

/-- In cleanly partitioned tables a known name without a built-in's shape is a transformation. -/
theorem CleanlyPartitioned.mem_plugins {tables : CapabilityTables} (h : tables.CleanlyPartitioned)
    {name : String} (hknown : name ∈ tables.knownNames) (hshape : isBuiltInName name = false) :
    name ∈ tables.plugins.keys := by
  have hne : isBuiltInName name ≠ true := by
    rw [hshape]
    exact Bool.false_ne_true
  -- The known names are the plugins, the built-ins and the defaults; the shape rules out the last
  -- two.
  rcases List.mem_append.1 hknown with hknown | hdefault
  · rcases List.mem_append.1 hknown with hplugin | hbuiltIn
    · exact hplugin
    · exact absurd (h.builtIns name hbuiltIn) hne
  · exact absurd (h.defaultInclude name hdefault) hne

/-- The shipped tables are cleanly partitioned. -/
theorem shippedTables_cleanlyPartitioned : shippedTables.CleanlyPartitioned := by
  decide +kernel

end CapabilityTables

end TransformPreset
