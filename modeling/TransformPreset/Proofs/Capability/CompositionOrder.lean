import TransformPreset.Proofs.Capability.Composition
import TransformPreset.Proofs.Names

/-!
# In which order names are composed

A composition has two parts: the names that are not excluded, and behind them the included names
that are new, both in the order of their first places (`excludeThenInclude_composed`). The two
compositions of a preset are the same one, but for the overrides that they heed: polyfills heed
those that have a built-in's shape, and transformations the others (`compositions_exact`).
-/

namespace TransformPreset

/-- Names composed under overrides, of which those are heeded that have a shape. -/
structure Composed (heeds : String → Bool) (names included excluded composed : List String) :
    Prop where
  /-- The names that are not excluded come first and the included ones that are new come last, each
  at its first place. -/
  parts : ∃ kept added, composed = kept ++ added ∧
    AtFirstPlaces (names.filter fun name => ¬(heeds name = true ∧ name ∈ excluded)) kept ∧
    AtFirstPlaces (included.filter fun name => heeds name = true ∧ name ∉ kept) added
  /-- No name comes twice. -/
  nodup : composed.Nodup
  /-- Names that are not excluded keep their order. -/
  order : ∀ a ∈ names, ∀ b ∈ names, ¬(heeds a = true ∧ a ∈ excluded) →
    ¬(heeds b = true ∧ b ∈ excluded) →
      (composed.idxOf a < composed.idxOf b ↔ names.idxOf a < names.idxOf b)

/-- A composition of names that heeds the overrides of one shape. -/
structure ComposesBy (heeds : String → Bool) (names : List String)
    (compose : Overrides → Overrides → Traced (List String)) : Prop where
  /-- It succeeds, whatever is included and excluded, and what it composes is told exactly. -/
  exact : ∀ included excluded, ∃ composed,
    (compose (.ofNames included) (.ofNames excluded)).result = .ok composed ∧
      Composed heeds names included excluded composed
  /-- It is the same for all overrides that have the same names of the shape. -/
  others : ∀ included excluded included' excluded',
    included'.filter heeds = included.filter heeds →
      excluded'.filter heeds = excluded.filter heeds →
        compose (.ofNames included') (.ofNames excluded') =
          compose (.ofNames included) (.ofNames excluded)

/-- Exclusion, then inclusion, of the overrides of a shape composes the names as told. -/
theorem excludeThenInclude_composed (heeds : String → Bool)
    (names included excluded : List String) :
    Composed heeds names included excluded
      (excludeThenInclude names (included.filter heeds) (excluded.filter heeds)) := by
  have hkeeps : (names.filter fun name => !(excluded.filter heeds).contains name) =
      names.filter fun name => ¬(heeds name = true ∧ name ∈ excluded) := by
    refine List.filter_congr fun name _ => ?_
    rw [Bool.eq_iff_iff, Bool.not_eq_true', ← Bool.not_eq_true, List.contains_iff_mem,
      List.mem_filter, decide_eq_true_eq, and_comm]
  unfold excludeThenInclude
  rw [hkeeps]
  generalize hkept : (names.filter fun name => ¬(heeds name = true ∧ name ∈ excluded)) = kept
  have hfirst := atFirstPlaces_distinct (kept ++ included.filter heeds)
  refine ⟨⟨distinct kept, _, distinct_append _ _, hkept ▸ atFirstPlaces_distinct kept, ?added⟩,
    hfirst.nodup, ?order⟩
  case added =>
    have hnew : (included.filter fun name => heeds name = true ∧ name ∉ distinct kept) =
        (included.filter heeds).filter fun name => name ∉ kept := by
      rw [List.filter_filter]
      refine List.filter_congr fun name _ => ?_
      rw [Bool.eq_iff_iff, Bool.and_eq_true, decide_eq_true_eq, decide_eq_true_eq, mem_distinct,
        and_comm]
    rw [hnew]
    exact atFirstPlaces_distinct _
  case order =>
    intro a ha b hb hakept hbkept
    have hmem : ∀ {name : String}, name ∈ names → ¬(heeds name = true ∧ name ∈ excluded) →
        name ∈ kept := by
      intro name hname hnot
      rw [← hkept]
      exact List.mem_filter.2 ⟨hname, decide_eq_true hnot⟩
    have hain := hmem ha hakept
    have hbin := hmem hb hbkept
    rw [hfirst.idxOf_lt_iff (List.mem_append_left _ hain) (List.mem_append_left _ hbin),
      List.idxOf_append_of_mem hain, List.idxOf_append_of_mem hbin, ← hkept]
    exact idxOf_filter_lt_iff (decide_eq_true hakept) (decide_eq_true hbkept)

/-- A composition that excludes and then includes the part of the overrides that has a shape, and
looks at nothing else of them, heeds the overrides of that shape. -/
theorem ComposesBy.of_part {heeds : String → Bool} {names : List String}
    {compose : Overrides → Overrides → Traced (List String)} {part : Overrides → List String}
    (hpart : ∀ given, part (.ofNames given) = given.filter heeds)
    (hresult : ∀ included excluded, (compose included excluded).result =
      .ok (excludeThenInclude names (part included) (part excluded)))
    (hcongr : ∀ included excluded included' excluded', part included' = part included →
      part excluded' = part excluded → compose included' excluded' = compose included excluded) :
    ComposesBy heeds names compose where
  exact included excluded := by
    refine ⟨_, hresult _ _, ?_⟩
    rw [hpart, hpart]
    exact excludeThenInclude_composed heeds names included excluded
  others included excluded included' excluded' hincluded hexcluded := by
    refine hcongr _ _ _ _ ?_ ?_
    · rw [hpart, hpart, hincluded]
    · rw [hpart, hpart, hexcluded]

/-- Polyfills are composed of the required and the default names under the overrides of built-ins,
and transformations of the required ones under the other overrides. -/
theorem compositions_exact (required defaultInclude : List String) :
    ComposesBy isBuiltInName (required ++ defaultInclude)
        (composePolyfills required defaultInclude) ∧
      ComposesBy (fun name => !isBuiltInName name) required (composeTransformations required) := by
  constructor
  · refine .of_part (fun _ => rfl) (composePolyfills_result required defaultInclude) ?_
    intro included excluded included' excluded' hincluded hexcluded
    unfold composePolyfills
    rw [hincluded, hexcluded]
  · refine .of_part (fun _ => rfl) (composeTransformations_result required) ?_
    intro included excluded included' excluded' hincluded hexcluded
    unfold composeTransformations
    rw [hincluded, hexcluded]

end TransformPreset
