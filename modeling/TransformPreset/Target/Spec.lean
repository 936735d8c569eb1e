import TransformPreset.Entries
import TransformPreset.Number.Order

/-!
# Target specifications

What a caller targets, after validation: a constraint for each environment that is named directly,
the text of an electron version, and the browser queries. An empty specification targets nothing.
-/

namespace TransformPreset

/-- What is asked of one environment. -/
inductive Constraint
  /-- The version of the runtime that is running. -/
  | current
  /-- A given version. -/
  | version (version : Binary64)
deriving DecidableEq

/-- A validated target specification. -/
structure TargetSpec where
  /-- The environments named directly. -/
  environments : Entries Constraint := []
  /-- The text of an electron version. -/
  electron : Option String := none
  /-- The browser queries. -/
  browsers : Option (List String) := none
deriving DecidableEq

/-- Whether the specification targets nothing. -/
def TargetSpec.isEmpty (spec : TargetSpec) : Bool :=
  spec.environments.isEmpty && spec.electron.isNone && spec.browsers.isNone

end TransformPreset
