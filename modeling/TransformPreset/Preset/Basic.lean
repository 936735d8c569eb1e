import TransformPreset.Preset.Plan
import TransformPreset.Registry.Discovery

/-!
# Presets

A preset is a plan together with its units: the unit of the module transformation first, if there is
one, then those of the transformations in order, and last the one that requires the polyfills, if
they are selected.
-/

namespace TransformPreset

/-- The options that a unit is run with. -/
inductive UnitOptions
  /-- The options of a transformation. -/
  | transformation (loose : Bool)
  /-- The options of the unit that requires the polyfills. -/
  | polyfills (names : List String) (regenerator : Bool)
deriving DecidableEq

/-- The options of a unit as a value. -/
def UnitOptions.toValue : UnitOptions → Value
  | .transformation loose => .map [("loose", .bool loose)]
  | .polyfills names regenerator =>
    .map [("polyfills", .list (names.map .text)), ("regenerator", .bool regenerator)]

/-- A unit and the options that it is run with. -/
structure ConfiguredUnit where
  /-- The unit. -/
  unit : NamedUnit
  /-- Its options. -/
  options : UnitOptions
deriving DecidableEq

/-- A resolved preset. -/
structure Preset where
  /-- The units in the order in which they run. -/
  plugins : List ConfiguredUnit
  /-- The canonical targets. -/
  targets : CanonicalTargets
  /-- The module system to transform to, if any. -/
  moduleType : Option ModuleType
  /-- The names of the transformations. -/
  transformations : List String
  /-- The names of the polyfills, if polyfills are selected. -/
  polyfills : Option (List String)

/-- The ids of the units in order. -/
def Preset.unitIds (preset : Preset) : List String :=
  preset.plugins.map fun configured => configured.unit.id

namespace Plan

/-- The unit of the module transformation. -/
def moduleUnits (tables : CapabilityTables) (registry : Registry) (plan : Plan) :
    Except Failure (List ConfiguredUnit) :=
  match plan.moduleType with
  | none => .ok []
  | some moduleType =>
    match tables.modules.get? moduleType.name with
    | none => .error (.moduleTypeUnmapped moduleType.name)
    | some id => do return [⟨← registry.require id, .transformation plan.loose⟩]

/-- The units of the named transformations. -/
def transformationUnits (registry : Registry) (loose : Bool) :
    List String → Except Failure (List ConfiguredUnit)
  | [] => .ok []
  | name :: rest => do
    let unit ← registry.require name
    let units ← transformationUnits registry loose rest
    return ⟨unit, .transformation loose⟩ :: units

/-- The unit that requires the polyfills. -/
def polyfillUnits (registry : Registry) (plan : Plan) : Except Failure (List ConfiguredUnit) :=
  match plan.polyfills with
  | none => .ok []
  | some names => do
    return [⟨← registry.require polyfillUnitId,
      .polyfills names (plan.transformations.contains regeneratorUnitId)⟩]

/-- The units of a plan. -/
def assemble (tables : CapabilityTables) (registry : Registry) (plan : Plan) :
    Except Failure (List ConfiguredUnit) := do
  let modules ← plan.moduleUnits tables registry
  let transformations ← transformationUnits registry plan.loose plan.transformations
  let polyfills ← plan.polyfillUnits registry
  return modules ++ transformations ++ polyfills

/-- The preset of a plan and its units. -/
def toPreset (plan : Plan) (plugins : List ConfiguredUnit) : Preset where
  plugins := plugins
  targets := plan.targets
  moduleType := plan.moduleType
  transformations := plan.transformations
  polyfills := plan.polyfills

end Plan

end TransformPreset
