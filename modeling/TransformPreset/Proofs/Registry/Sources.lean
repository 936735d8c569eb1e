import Mathlib.Data.List.Forall2
import TransformPreset.Proofs.Registry.LastWrite

/-!
# Where the units of a discovered registry come from

Discovery registers the units of the tables, which refuses an id that comes twice, and then writes
the units of the entry points and of the bundles over them. The names of plugins and module
transformations are made distinct before, but the id of the polyfill unit is added behind them: it
is the one id that can come twice (`ids_builtInUnits_nodup_iff`). All that a discovery needs
otherwise is that every bundle can be loaded (`Registry.discover_ok_iff`), and what it ends with is
a log of the three sources, of which the last write of an id counts.
-/

namespace TransformPreset

/-- The ids of the units that the tables call for. -/
theorem ids_builtInUnits (tables : CapabilityTables) :
    (builtInUnits tables).map NamedUnit.id =
      distinct (tables.plugins.keys ++ tables.modules.map Prod.snd) ++ [polyfillUnitId] := by
  have hid : NamedUnit.id ∘ NamedUnit.ofId = id := rfl
  rw [builtInUnits, List.map_append, List.map_map, hid, List.map_id]
  rfl

/-- An id of the tables comes twice exactly if it is that of the polyfill unit. -/
theorem ids_builtInUnits_nodup_iff (tables : CapabilityTables) :
    ((builtInUnits tables).map NamedUnit.id).Nodup ↔
      polyfillUnitId ∉ tables.plugins.keys ∧ polyfillUnitId ∉ tables.modules.map Prod.snd := by
  rw [ids_builtInUnits, List.perm_append_comm.nodup_iff, List.singleton_append, List.nodup_cons,
    mem_distinct, List.mem_append, not_or]
  exact and_iff_left (nodup_distinct _)

namespace Registry

variable {registry next : Registry} {tables : CapabilityTables} {sources : UnitSources}
  {specs : List String} {announced : List NamedUnit}

/-- Units are free after a write if they were free before and none has the id that was written. -/
theorem forall_free_replace_iff (registry : Registry) (written : NamedUnit)
    (units : List NamedUnit) :
    (∀ unit ∈ units, (registry.replace written).unit? unit.id = none) ↔
      written.id ∉ units.map NamedUnit.id ∧ ∀ unit ∈ units, registry.unit? unit.id = none := by
  have hone : ∀ unit : NamedUnit, (registry.replace written).unit? unit.id = none ↔
      written.id ≠ unit.id ∧ registry.unit? unit.id = none := by
    intro unit
    rw [unit?_replace]
    split <;> simp [*]
  constructor
  · intro h
    refine ⟨fun hmem => ?_, fun unit hunit => ((hone unit).1 (h unit hunit)).2⟩
    obtain ⟨unit, hunit, hid⟩ := List.mem_map.1 hmem
    exact ((hone unit).1 (h unit hunit)).1 hid.symm
  · rintro ⟨hid, h⟩ unit hunit
    exact (hone unit).2 ⟨fun heq => hid (heq ▸ List.mem_map_of_mem hunit), h unit hunit⟩

/-- A bundle is registered exactly if its ids are distinct and none of them is present. -/
theorem registerAll_ok_iff (registry : Registry) (units : List NamedUnit) :
    (registry.registerAll units).2 = .ok () ↔
      (units.map NamedUnit.id).Nodup ∧ ∀ unit ∈ units, registry.unit? unit.id = none := by
  induction units generalizing registry with
  | nil => simp [registerAll]
  | cons unit rest ih =>
    rw [List.map_cons, List.nodup_cons, List.forall_mem_cons]
    by_cases hunit : registry.unit? unit.id = none
    · rw [registerAll_cons_of_not_refuses (by simp [refuses_nil, hunit]), ih,
        forall_free_replace_iff, and_iff_right hunit, and_left_comm, and_assoc]
    · rw [registerAll_cons_of_refuses (by simpa [refuses_nil, Option.isSome_iff_ne_none])]
      exact iff_of_false (by simp) fun h => hunit h.2.1

/-- The units of the tables are registered unless one of them takes the id of the polyfills. -/
theorem complete_registerAll_ok_iff :
    complete (({} : Registry).registerAll (builtInUnits tables)) = .ok next ↔
      (polyfillUnitId ∉ tables.plugins.keys ∧ polyfillUnitId ∉ tables.modules.map Prod.snd) ∧
        next = ({} : Registry).replaceAll (builtInUnits tables) := by
  have hempty : ∀ unit ∈ builtInUnits tables, ({} : Registry).unit? unit.id = none :=
    fun _ _ => rfl
  rw [← ids_builtInUnits_nodup_iff, complete, except_map_ok_iff]
  constructor
  · rintro ⟨⟨⟩, hregistered, rfl⟩
    exact ⟨((registerAll_ok_iff _ _).1 hregistered).1, registerAll_ok hregistered⟩
  · rintro ⟨hnodup, rfl⟩
    have hregistered := (registerAll_ok_iff ({} : Registry) _).2 ⟨hnodup, hempty⟩
    exact ⟨(), hregistered, registerAll_ok hregistered⟩

/-- Bundles can be written exactly if each text leads to one; then all of them are. -/
theorem loadModuleBundles_ok_iff :
    registry.loadModuleBundles sources specs = .ok next ↔
      ∃ bundles, List.Forall₂ (BundleAt sources) specs bundles ∧
        next = registry.replaceAll bundles.flatten := by
  induction specs generalizing registry with
  | nil =>
    constructor
    · intro h
      exact ⟨[], .nil, (Except.ok.inj h).symm⟩
    · rintro ⟨bundles, hbundles, rfl⟩
      obtain rfl := List.forall₂_nil_left_iff.1 hbundles
      rfl
  | cons spec rest ih =>
    rw [loadModuleBundles, except_bind_ok_iff]
    constructor
    · rintro ⟨middle, hmiddle, h⟩
      obtain ⟨units, hunits, rfl⟩ := except_map_ok_iff.1 hmiddle
      obtain ⟨bundles, hbundles, rfl⟩ := ih.1 h
      refine ⟨units :: bundles, .cons (loadBundle_ok_iff.1 hunits) hbundles, ?_⟩
      rw [List.flatten_cons, replaceAll_append]
    · rintro ⟨bundles, hbundles, rfl⟩
      obtain ⟨units, others, hunits, hothers, rfl⟩ := List.forall₂_cons_left_iff.1 hbundles
      refine ⟨registry.replaceAll units, ?_, ih.2 ⟨others, hothers, ?_⟩⟩
      · exact except_map_ok_iff.2 ⟨units, loadBundle_ok_iff.2 hunits, rfl⟩
      · rw [List.flatten_cons, replaceAll_append]

/-- Every text leads to a bundle exactly if there is a list of the bundles. -/
theorem exists_bundles_iff :
    (∃ bundles, List.Forall₂ (BundleAt sources) specs bundles) ↔
      ∀ spec ∈ specs, ∃ units, BundleAt sources spec units := by
  induction specs with
  | nil => exact ⟨fun _ _ h => absurd h List.not_mem_nil, fun _ => ⟨[], .nil⟩⟩
  | cons spec rest ih =>
    rw [List.forall_mem_cons, ← ih]
    constructor
    · rintro ⟨bundles, hbundles⟩
      obtain ⟨units, others, hunits, hothers, -⟩ := List.forall₂_cons_left_iff.1 hbundles
      exact ⟨⟨units, hunits⟩, others, hothers⟩
    · rintro ⟨⟨units, hunits⟩, others, hothers⟩
      exact ⟨units :: others, .cons hunits hothers⟩

/-- What discovery ends with when the entry points load to units: the units of the tables, of the
entry points and of the bundles, written in this order. -/
theorem discover_ok_iff
    (h : sources.entryPoints.map Provided.called = announced.map fun unit => .ok (.unit unit)) :
    discover tables sources specs = .ok registry ↔
      (polyfillUnitId ∉ tables.plugins.keys ∧ polyfillUnitId ∉ tables.modules.map Prod.snd) ∧
        ∃ bundles, List.Forall₂ (BundleAt sources) specs bundles ∧
          registry = ({} : Registry).replaceAll
            (builtInUnits tables ++ announced ++ bundles.flatten) := by
  have hannounced : ∀ ofTables : Registry,
      complete (ofTables.loadEntryPoints sources.entryPoints) =
        .ok (ofTables.replaceAll announced) := by
    intro ofTables
    rw [loadEntryPoints_of_units h]
    rfl
  rw [discover, except_bind_ok_iff]
  constructor
  · rintro ⟨ofTables, htables, hrest⟩
    obtain ⟨hpolyfill, rfl⟩ := complete_registerAll_ok_iff.1 htables
    rw [hannounced] at hrest
    obtain ⟨bundles, hbundles, rfl⟩ := loadModuleBundles_ok_iff.1 hrest
    refine ⟨hpolyfill, bundles, hbundles, ?_⟩
    rw [replaceAll_append, replaceAll_append]
  · rintro ⟨hpolyfill, bundles, hbundles, rfl⟩
    refine ⟨_, complete_registerAll_ok_iff.2 ⟨hpolyfill, rfl⟩, ?_⟩
    rw [hannounced]
    refine loadModuleBundles_ok_iff.2 ⟨bundles, hbundles, ?_⟩
    rw [replaceAll_append, replaceAll_append]

/-! ## The sources of units -/

/-- A registry of the units of tables, of units that entry points announce and of bundles, in which
a later source counts before an earlier one. -/
structure DrawsFrom (registry : Registry) (tables : CapabilityTables) (announced : List NamedUnit)
    (bundles : List (List NamedUnit)) : Prop where
  /-- The ids are those of the plugins, the module transformations, the polyfills, the entry points
  and the bundles. -/
  has : ∀ id, id ∈ registry.units.keys ↔
    id ∈ tables.plugins.keys ∨ id ∈ tables.modules.map Prod.snd ∨ id = polyfillUnitId ∨
      id ∈ announced.map NamedUnit.id ∨ ∃ bundle ∈ bundles, id ∈ bundle.map NamedUnit.id
  /-- No id comes twice. -/
  nodup : registry.units.keys.Nodup
  /-- Under each id stands the last unit of all sources. -/
  unit? : ∀ id, registry.unit? id =
    lastWrite? (builtInUnits tables ++ announced ++ bundles.flatten) id
  /-- That is the last one of the bundles, else that of the entry points, else that of the
  tables. -/
  overrides : ∀ id, registry.unit? id =
    (lastWrite? bundles.flatten id).or
      ((lastWrite? announced id).or (lastWrite? (builtInUnits tables) id))

/-- When a registry is discovered from tables and sources, and what it then holds. -/
structure DiscoversFrom (tables : CapabilityTables) (sources : UnitSources) (specs : List String)
    (announced : List NamedUnit) : Prop where
  /-- It is unless a plugin or a module transformation has the id of the polyfills, or a text leads
  to no bundle. -/
  ok_iff : (∃ registry, discover tables sources specs = .ok registry) ↔
    polyfillUnitId ∉ tables.plugins.keys ∧ polyfillUnitId ∉ tables.modules.map Prod.snd ∧
      ∀ spec ∈ specs, ∃ units, BundleAt sources spec units
  /-- It holds the units of the tables, of the entry points and of the bundles. -/
  draws : ∀ registry, discover tables sources specs = .ok registry →
    ∃ bundles, List.Forall₂ (BundleAt sources) specs bundles ∧
      registry.DrawsFrom tables announced bundles

/-- Units that are written to the empty registry in the order of the sources are drawn from
them. -/
theorem drawsFrom_replaceAll (tables : CapabilityTables) (announced : List NamedUnit)
    (bundles : List (List NamedUnit)) :
    (({} : Registry).replaceAll (builtInUnits tables ++ announced ++ bundles.flatten)).DrawsFrom
      tables announced bundles := by
  have hunit : ∀ id, (({} : Registry).replaceAll
      (builtInUnits tables ++ announced ++ bundles.flatten)).unit? id =
        lastWrite? (builtInUnits tables ++ announced ++ bundles.flatten) id := by
    intro id
    rw [unit?_replaceAll]
    exact Option.or_none
  refine { has := fun id => ?has, nodup := ?nodup, unit? := hunit, overrides := fun id => ?later }
  case has =>
    rw [← Entries.has_iff]
    show (Registry.unit? _ id).isSome ↔ _
    rw [hunit, isSome_lastWrite?]
    simp only [List.map_append, List.mem_append, ids_builtInUnits, mem_distinct, List.map_flatten,
      List.mem_flatten, List.mem_map, List.mem_singleton, exists_exists_and_eq_and, or_assoc]
  case nodup =>
    exact (stores_empty.replaceAll _).nodup
  case later =>
    rw [hunit, lastWrite?_append, lastWrite?_append]

/-- Discovery succeeds exactly if the id of the polyfills is not taken by the tables and every text
leads to a bundle. It draws from the tables, the entry points and the bundles, in that order. -/
theorem discover_drawsFrom (tables : CapabilityTables) (sources : UnitSources)
    (specs : List String) (announced : List NamedUnit)
    (h : sources.entryPoints.map Provided.called = announced.map fun unit => .ok (.unit unit)) :
    DiscoversFrom tables sources specs announced where
  ok_iff := by
    rw [← exists_bundles_iff, ← and_assoc]
    constructor
    · rintro ⟨registry, hregistry⟩
      obtain ⟨hpolyfill, bundles, hbundles, -⟩ := (discover_ok_iff h).1 hregistry
      exact ⟨hpolyfill, bundles, hbundles⟩
    · rintro ⟨hpolyfill, bundles, hbundles⟩
      exact ⟨_, (discover_ok_iff h).2 ⟨hpolyfill, bundles, hbundles, rfl⟩⟩
  draws registry hregistry := by
    obtain ⟨-, bundles, hbundles, rfl⟩ := (discover_ok_iff h).1 hregistry
    exact ⟨bundles, hbundles, drawsFrom_replaceAll tables announced bundles⟩

/-- Tables in which a plugin and two module transformations have the same name. -/
def overlappingTables : CapabilityTables where
  plugins := [("transform-modules", []), ("transform-classes", [])]
  builtIns := []
  electron := []
  modules := [("amd", "transform-modules"), ("umd", "transform-modules")]
  defaultInclude := []

/-- An entry point that answers with a unit when it is called, and a module with a bundle of a unit
for the same id and one for the polyfills. -/
def overlappingSources : UnitSources where
  entryPoints := [.function (.unit ⟨"transform-classes", "announced"⟩)]
  modules := [("units", [("mine", .bundle
    [⟨"transform-classes", "bundled"⟩, ⟨polyfillUnitId, "bundled"⟩])])]

/-- They are discovered, whatever comes twice in them, and the unit of the bundle counts. -/
theorem discover_overlapping :
    overlappingSources.entryPoints.map Provided.called =
        [⟨"transform-classes", "announced"⟩].map (fun unit => .ok (.unit unit)) ∧
      (∃ registry, discover overlappingTables overlappingSources ["units:mine"] = .ok registry ∧
        registry.unit? "transform-classes" = some ⟨"transform-classes", "bundled"⟩) ∧
      DiscoversFrom overlappingTables overlappingSources ["units:mine"]
        [⟨"transform-classes", "announced"⟩] :=
  ⟨rfl, ⟨_, rfl, rfl⟩, discover_drawsFrom _ _ _ _ rfl⟩

end Registry

end TransformPreset
