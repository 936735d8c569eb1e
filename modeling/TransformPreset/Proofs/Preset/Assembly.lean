import Mathlib.Data.List.Forall2
import TransformPreset.Preset.Basic
import TransformPreset.Proofs.Outcome
import TransformPreset.Proofs.Registry.History

/-!
# The units that a plan calls for

A plan calls for units by id, each with the options that it is run with (`unitCalls`). Assembly
looks every id up: it answers each call with the unit that the registry holds under the id
(`Plan.assemble_ok`), and it succeeds if all ids are held (`Plan.exists_assemble`).
-/

namespace TransformPreset

/-- What a preset calls for, in order: the id of each unit and its options. The module
transformation comes first and the unit that requires the polyfills last. -/
def unitCalls (tables : CapabilityTables) (loose : Bool) (moduleType : Option ModuleType)
    (transformations : List String) (polyfills : Option (List String)) :
    List (String × UnitOptions) :=
  (moduleType.bind fun type => tables.modules.get? type.name).toList.map
      (·, .transformation loose) ++
    transformations.map (·, .transformation loose) ++
    polyfills.toList.map fun names =>
      (polyfillUnitId, .polyfills names (decide (regeneratorUnitId ∈ transformations)))

/-- The unit that a registry holds under the id of a call, with the options of the call. -/
structure Answers (registry : Registry) (call : String × UnitOptions)
    (configured : ConfiguredUnit) : Prop where
  /-- The unit stands under the id. -/
  unit : registry.unit? call.1 = some configured.unit
  /-- The options are those of the call. -/
  options : configured.options = call.2

namespace Registry

variable {registry : Registry} {id : String}

/-- A unit can be required exactly if it is there. -/
theorem require_ok_iff {unit : NamedUnit} :
    registry.require id = .ok unit ↔ registry.unit? id = some unit := by
  unfold require
  cases registry.unit? id <;> simp

/-- An id that is there can be required. -/
theorem exists_require (h : (registry.unit? id).isSome) :
    ∃ unit, registry.require id = .ok unit := by
  obtain ⟨unit, hunit⟩ := Option.isSome_iff_exists.1 h
  exact ⟨unit, require_ok_iff.2 hunit⟩

end Registry

namespace Plan

variable {tables : CapabilityTables} {registry : Registry} {plan : Plan}

/-! ## Answered calls -/

/-- The module transformation answers the call for it, and its type has one. -/
theorem moduleUnits_ok {units : List ConfiguredUnit}
    (h : plan.moduleUnits tables registry = .ok units) :
    (∀ type, plan.moduleType = some type → (tables.modules.get? type.name).isSome) ∧
      List.Forall₂ (Answers registry)
        ((plan.moduleType.bind fun type => tables.modules.get? type.name).toList.map
          (·, .transformation plan.loose)) units := by
  unfold moduleUnits at h
  cases htype : plan.moduleType with
  | none =>
    rw [htype] at h
    obtain rfl := Except.ok.inj h
    exact ⟨fun _ heq => absurd heq (Option.some_ne_none _).symm, List.Forall₂.nil⟩
  | some type =>
    rw [htype] at h
    cases hid : tables.modules.get? type.name with
    | none =>
      simp only [hid] at h
      cases h
    | some id =>
      simp only [hid] at h
      obtain ⟨unit, hunit, h⟩ := except_bind_ok_iff.1 h
      obtain rfl := Except.ok.inj h
      refine ⟨?_, ?_⟩
      · intro other heq
        rw [← Option.some.inj heq, hid]
        rfl
      · rw [Option.bind_some, hid]
        exact List.Forall₂.cons ⟨Registry.require_ok_iff.1 hunit, rfl⟩ List.Forall₂.nil

/-- The units of the transformations answer the calls for them. -/
theorem transformationUnits_ok {loose : Bool} {names : List String} {units : List ConfiguredUnit}
    (h : transformationUnits registry loose names = .ok units) :
    List.Forall₂ (Answers registry) (names.map (·, .transformation loose)) units := by
  induction names generalizing units with
  | nil =>
    obtain rfl := Except.ok.inj h
    exact List.Forall₂.nil
  | cons name rest ih =>
    obtain ⟨unit, hunit, h⟩ := except_bind_ok_iff.1 h
    obtain ⟨others, hothers, h⟩ := except_bind_ok_iff.1 h
    obtain rfl := Except.ok.inj h
    exact List.Forall₂.cons ⟨Registry.require_ok_iff.1 hunit, rfl⟩ (ih hothers)

/-- The unit that requires the polyfills answers the call for it. -/
theorem polyfillUnits_ok {units : List ConfiguredUnit}
    (h : plan.polyfillUnits registry = .ok units) :
    List.Forall₂ (Answers registry) (plan.polyfills.toList.map fun names => (polyfillUnitId,
      .polyfills names (decide (regeneratorUnitId ∈ plan.transformations)))) units := by
  unfold polyfillUnits at h
  cases hpolyfills : plan.polyfills with
  | none =>
    rw [hpolyfills] at h
    obtain rfl := Except.ok.inj h
    exact List.Forall₂.nil
  | some names =>
    rw [hpolyfills] at h
    obtain ⟨unit, hunit, h⟩ := except_bind_ok_iff.1 h
    obtain rfl := Except.ok.inj h
    refine List.Forall₂.cons ⟨Registry.require_ok_iff.1 hunit, ?_⟩ List.Forall₂.nil
    rw [List.contains_eq_mem]

/-- The assembled units answer the calls of the plan one by one, and a module type that is asked for
has a transformation. -/
theorem assemble_ok {plugins : List ConfiguredUnit}
    (h : plan.assemble tables registry = .ok plugins) :
    (∀ type, plan.moduleType = some type → (tables.modules.get? type.name).isSome) ∧
      List.Forall₂ (Answers registry)
        (unitCalls tables plan.loose plan.moduleType plan.transformations plan.polyfills)
        plugins := by
  obtain ⟨modules, hmodules, h⟩ := except_bind_ok_iff.1 h
  obtain ⟨transformations, htransformations, h⟩ := except_bind_ok_iff.1 h
  obtain ⟨polyfills, hpolyfills, h⟩ := except_bind_ok_iff.1 h
  obtain rfl := Except.ok.inj h
  -- The three kinds of calls are answered apart, and stand one behind the other.
  obtain ⟨hmapped, hmodule⟩ := moduleUnits_ok hmodules
  have hfirst := List.rel_append hmodule (transformationUnits_ok htransformations)
  exact ⟨hmapped, List.rel_append hfirst (polyfillUnits_ok hpolyfills)⟩

/-! ## Calls that can be answered -/

/-- The module transformation can be looked up if its type has one that is held. -/
theorem exists_moduleUnits
    (hmapped : ∀ type, plan.moduleType = some type →
      ∃ id, tables.modules.get? type.name = some id ∧ (registry.unit? id).isSome) :
    ∃ units, plan.moduleUnits tables registry = .ok units := by
  unfold moduleUnits
  cases htype : plan.moduleType with
  | none => exact ⟨[], rfl⟩
  | some type =>
    obtain ⟨id, hid, hheld⟩ := hmapped type htype
    obtain ⟨unit, hunit⟩ := Registry.exists_require hheld
    refine ⟨[⟨unit, .transformation plan.loose⟩], ?_⟩
    simp only [hid]
    exact except_bind_ok_iff.2 ⟨unit, hunit, rfl⟩

/-- Transformations can be looked up if all of them are held. -/
theorem exists_transformationUnits (loose : Bool) {names : List String}
    (h : ∀ name ∈ names, (registry.unit? name).isSome) :
    ∃ units, transformationUnits registry loose names = .ok units := by
  induction names with
  | nil => exact ⟨[], rfl⟩
  | cons name rest ih =>
    obtain ⟨hname, hrest⟩ := List.forall_mem_cons.1 h
    obtain ⟨unit, hunit⟩ := Registry.exists_require hname
    obtain ⟨units, hunits⟩ := ih hrest
    exact ⟨_, except_bind_ok_iff.2 ⟨unit, hunit, except_bind_ok_iff.2 ⟨units, hunits, rfl⟩⟩⟩

/-- The unit that requires the polyfills can be looked up if it is held. -/
theorem exists_polyfillUnits (plan : Plan) (h : (registry.unit? polyfillUnitId).isSome) :
    ∃ units, plan.polyfillUnits registry = .ok units := by
  unfold polyfillUnits
  cases plan.polyfills with
  | none => exact ⟨[], rfl⟩
  | some names =>
    obtain ⟨unit, hunit⟩ := Registry.exists_require h
    exact ⟨_, except_bind_ok_iff.2 ⟨unit, hunit, rfl⟩⟩

/-- A plan can be assembled if the registry holds every unit that it calls for. -/
theorem exists_assemble
    (hmapped : ∀ type, plan.moduleType = some type →
      ∃ id, tables.modules.get? type.name = some id ∧ (registry.unit? id).isSome)
    (hnames : ∀ name ∈ plan.transformations, (registry.unit? name).isSome)
    (hpolyfills : (registry.unit? polyfillUnitId).isSome) :
    ∃ plugins, plan.assemble tables registry = .ok plugins := by
  obtain ⟨modules, hmodules⟩ := exists_moduleUnits hmapped
  obtain ⟨transformations, htransformations⟩ := exists_transformationUnits plan.loose hnames
  obtain ⟨polyfills, hpolyfills⟩ := plan.exists_polyfillUnits hpolyfills
  refine ⟨modules ++ transformations ++ polyfills, ?_⟩
  unfold assemble
  rw [except_bind_ok_iff]
  refine ⟨modules, hmodules, except_bind_ok_iff.2 ⟨transformations, htransformations, ?_⟩⟩
  exact except_bind_ok_iff.2 ⟨polyfills, hpolyfills, rfl⟩

end Plan

/-! ## Ids of answered calls -/

/-- Units that answer calls from a registry in which each unit stands under its own id carry the ids
and the options of the calls. -/
theorem map_of_answers {registry : Registry} (hsound : registry.Sound)
    {calls : List (String × UnitOptions)} {plugins : List ConfiguredUnit}
    (h : List.Forall₂ (Answers registry) calls plugins) :
    plugins.map (fun configured => (configured.unit.id, configured.options)) = calls := by
  induction h with
  | nil => rfl
  | cons hanswer _ ih =>
    rw [List.map_cons, ih, hsound _ _ hanswer.unit, hanswer.options]

/-- Units that answer calls from such a registry are those that it holds under their ids. -/
theorem unit?_of_answers {registry : Registry} (hsound : registry.Sound)
    {calls : List (String × UnitOptions)} {plugins : List ConfiguredUnit}
    (h : List.Forall₂ (Answers registry) calls plugins) :
    ∀ configured ∈ plugins, registry.unit? configured.unit.id = some configured.unit := by
  induction h with
  | nil => exact fun _ hmem => absurd hmem List.not_mem_nil
  | cons hanswer _ ih =>
    refine List.forall_mem_cons.2 ⟨?_, ih⟩
    rw [hsound _ _ hanswer.unit]
    exact hanswer.unit

end TransformPreset
