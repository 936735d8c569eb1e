import TransformPreset.Capability.Table
import TransformPreset.Target.Canonical

/-!
# Required capabilities

A capability must be stood in for unless every targeted environment is known to implement it: its
entry has the environment, and the targeted version is not less than the version there. Without any
target nothing is known, so everything is required. Targets that use a shorthand are made canonical
first; others are taken as they are, and fail if they are no table.
-/

namespace TransformPreset

/-- The keys of targets that are shorthands. -/
def shorthandKeys : List String := [browsersKey, electronKey]

/-- Whether a table of targets has to be made canonical before it can be compared. -/
def usesShorthand (targets : Entries Value) : Bool :=
  shorthandKeys.any targets.has || (targets.get? nodeKey).any asksCurrent

/-- Fails for the first target whose version is no number. -/
def checkVersions (writing : Writing) : CanonicalTargets → Except Failure Unit
  | [] => .ok ()
  | (environment, value) :: rest =>
    match value.number? with
    | none => .error (value.showing writing.levels (.versionNotNumber environment value))
    | some _ => checkVersions writing rest

/-- Whether a targeted version of an environment is not known to implement the capability. -/
def lacks (capability : Entries Value) (environment : String) (targeted : Value) :
    Except Failure Bool :=
  match capability.get? environment with
  -- An environment without an entry is not known to implement the capability.
  | none | some .null => .ok true
  | some implemented =>
    match targeted.ordinal?, implemented.ordinal? with
    | some a, some b => .ok (a.lt b)
    | _, _ => .error .notComparable

/-- Whether some target is not known to implement the capability. The first such target decides,
and targets after it are not looked at. -/
def someLacks (capability : Entries Value) : CanonicalTargets → Except Failure Bool
  | [] => .ok false
  | (environment, targeted) :: rest => do
    if ← lacks capability environment targeted then return true else someLacks capability rest

/-- Whether the capability is required for canonical targets. -/
def requiredFor (writing : Writing) (targets : CanonicalTargets) (capability : Entries Value) :
    Except Failure Bool :=
  if targets.isEmpty then .ok true
  else do
    -- All versions are checked before any of them is compared.
    checkVersions writing targets
    someLacks capability targets

/-- Whether targets that are no table hold the key of a shorthand: a text holds it as a part and a
list as an item. Nothing can be looked up in anything else. -/
def mentionsShorthand : Value → Option Bool
  | .text s => some (shorthandKeys.any fun key => hasPart key.toList s.toList)
  | .list items => some (shorthandKeys.any (items.filterMap Value.text?).contains)
  | _ => none

/-- Canonical targets for targets of any form. -/
def comparableTargets (normalizer : Normalizer) : Value → Traced CanonicalTargets
  | .map entries =>
    if usesShorthand entries then normalizer.normalize (.map entries) else pure entries
  | .spec spec => normalizer.normalize (.spec spec)
  | value =>
    match mentionsShorthand value with
    | some true => normalizer.normalize value
    | some false => Traced.fail .notTable
    | none => Traced.fail .notComparable

/-- Whether the capability is required for targets of any form. -/
def isRequired (normalizer : Normalizer) (targets : Value) (capability : Entries Value) :
    Traced Bool := do
  let canonical ← comparableTargets normalizer targets
  Traced.of (requiredFor normalizer.writing canonical capability)

/-- The names of the capabilities of a table that are required, in the order of the table. -/
def selectRequired (normalizer : Normalizer) (targets : Value) :
    Entries (Entries Value) → Traced (List String)
  | [] => return []
  | (name, capability) :: rest => do
    let required ← isRequired normalizer targets capability
    let names ← selectRequired normalizer targets rest
    return if required then name :: names else names

/-! ## Capabilities of any form -/

/-- Whether a capability of any form is required. What is no table implements nothing and cannot be
looked up in, which only matters once there is a target to look up. -/
def isRequiredOf (normalizer : Normalizer) (targets : Value) : (capability : Value) → Traced Bool
  | .map capability => isRequired normalizer targets capability
  | _ => do
    let canonical ← comparableTargets normalizer targets
    if canonical.isEmpty then return true
    else do
      Traced.of (checkVersions normalizer.writing canonical)
      Traced.fail .notTable

/-- The names of the required capabilities of entries of any form. -/
def requiredNames (normalizer : Normalizer) (targets : Value) :
    Entries Value → Traced (List String)
  | [] => return []
  | (name, capability) :: rest => do
    let required ← isRequiredOf normalizer targets capability
    let names ← requiredNames normalizer targets rest
    return if required then name :: names else names

/-- The names of the required capabilities of a table of any form. -/
def selectRequiredOf (normalizer : Normalizer) (targets : Value) :
    (table : Value) → Traced (List String)
  | .map entries => requiredNames normalizer targets entries
  | _ => Traced.fail .notTable

end TransformPreset
