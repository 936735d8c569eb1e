import TransformPreset.Capability.Override
import TransformPreset.Names
import TransformPreset.Trace

/-!
# Composition

The names of a preset are the required ones less the excluded ones, followed by the included ones,
each at its first place. Included names come last, so a name that is both included and excluded
stays. Transformations heed the overrides that name transformations, and polyfills those that name
built-ins.
-/

namespace TransformPreset

/-- The names less the excluded ones, then the included ones, each at its first place. -/
def excludeThenInclude (names included excluded : List String) : List String :=
  -- Exclusion comes first, so that it never takes back an inclusion.
  distinct (names.filter (fun name => !excluded.contains name) ++ included)

/-- The transformations, from the required ones. -/
def composeTransformations (required : List String) (included excluded : Overrides) :
    Traced (List String) := do
  let composed := excludeThenInclude required included.plugins excluded.plugins
  Traced.log .debug .compose
    ("Composed " ++ writtenInt composed.length ++ " transformation(s) from " ++
      writtenInt required.length ++ " required")
  return composed

/-- The polyfills, from the required ones and those that are always included. -/
def composePolyfills (required defaultInclude : List String) (included excluded : Overrides) :
    Traced (List String) := do
  let composed :=
    excludeThenInclude (required ++ defaultInclude) included.builtIns excluded.builtIns
  Traced.log .debug .compose
    ("Composed " ++ writtenInt composed.length ++ " polyfill(s) from " ++
      writtenInt required.length ++ " required")
  return composed

end TransformPreset
