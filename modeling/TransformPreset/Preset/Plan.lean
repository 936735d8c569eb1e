import TransformPreset.Capability.Composition
import TransformPreset.Capability.Requirement
import TransformPreset.Preset.Options

/-!
# Plans

A plan is all that a preset decides before any unit is looked up: the canonical targets, and the
names of the transformations and of the polyfills. It depends on the options, the tables and the
outside world, and on nothing that a session remembers.
-/

namespace TransformPreset

/-- Options as a host gives them: a value that is to be read, or options validated before. -/
inductive OptionsInput
  /-- A value to read. -/
  | raw (value : Value)
  /-- Validated options. -/
  | validated (options : PresetOptions)

/-- The validated options, with names held to those that the tables know. -/
def OptionsInput.validate (tables : CapabilityTables) (writing : Writing) :
    OptionsInput → Traced PresetOptions
  | .raw value => PresetOptions.read writing (some tables.knownNames) value
  | .validated options => return options

/-- What a preset decides before any unit is looked up. -/
structure Plan where
  /-- The canonical targets. -/
  targets : CanonicalTargets
  /-- The module system to transform to, if any. -/
  moduleType : Option ModuleType
  /-- The names of the transformations. -/
  transformations : List String
  /-- The names of the polyfills, if polyfills are selected. -/
  polyfills : Option (List String)
  /-- Whether transformations may be loose. -/
  loose : Bool
  /-- Whether the debug report is asked for. -/
  debug : Bool

namespace Plan

/-- The transformations for canonical targets. -/
def selectTransformations (tables : CapabilityTables) (normalizer : Normalizer)
    (targets : CanonicalTargets) (options : PresetOptions) : Traced (List String) := do
  let required ← selectRequired normalizer (.map targets) tables.plugins.values
  composeTransformations required (.ofNames options.included) (.ofNames options.excluded)

/-- The polyfills for canonical targets, if they are asked for. -/
def selectPolyfills (tables : CapabilityTables) (normalizer : Normalizer)
    (targets : CanonicalTargets) (options : PresetOptions) : Traced (Option (List String)) :=
  if options.useBuiltIns then do
    let required ← selectRequired normalizer (.map targets) tables.builtIns.values
    let names ← composePolyfills required tables.defaultInclude (.ofNames options.included)
      (.ofNames options.excluded)
    return some names
  else return none

/-- The plan of validated options. -/
def ofOptions (tables : CapabilityTables) (normalizer : Normalizer) (options : PresetOptions) :
    Traced Plan := do
  let targets ← normalizer.resolveSpec options.targets
  Traced.log .debug .builder ("Canonical targets: " ++ (Value.map targets).written)
  let transformations ← selectTransformations tables normalizer targets options
  let polyfills ← selectPolyfills tables normalizer targets options
  return {
    targets, transformations, polyfills
    moduleType := options.moduleType
    loose := options.loose
    debug := options.debug }

/-- The plan of options as a host gives them. -/
def make (tables : CapabilityTables) (normalizer : Normalizer) (input : OptionsInput) :
    Traced Plan := do
  let options ← input.validate tables normalizer.writing
  ofOptions tables normalizer options

end Plan

end TransformPreset
