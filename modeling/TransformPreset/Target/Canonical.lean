import TransformPreset.Target.Electron
import TransformPreset.Target.Reading
import TransformPreset.Target.Release
import TransformPreset.Target.Runtime

/-!
# Canonical targets

Canonical targets map each environment to the least version that is targeted. A normalizer makes
them of a specification with the help of the outside world: a table of electron versions, a release
resolver, and the version of the running runtime. Environments named directly come first to their
values, an electron version gives the version of chrome, and what the browser queries add stands
below both.
-/

namespace TransformPreset

/-- The least targeted version of each environment. -/
abbrev CanonicalTargets := Entries Value

/-- What a specification needs to become canonical targets. -/
structure Normalizer where
  /-- The chrome version of each electron version. -/
  electron : Entries Value
  /-- The resolver of browser queries. -/
  resolve : ReleaseResolver := literalReleases
  /-- The version of the running runtime. -/
  nodeVersion : Traced Value
  /-- What can be written. -/
  writing : Writing := {}

namespace Normalizer

/-- The version that a constraint asks for. -/
def versionOf (normalizer : Normalizer) : Constraint → Traced Value
  | .current => normalizer.nodeVersion
  | .version x => return .float x

/-- The versions of the environments named directly. -/
def direct (normalizer : Normalizer) : Entries Constraint → Traced CanonicalTargets
  | [] => return []
  | (environment, constraint) :: rest => do
    let version ← normalizer.versionOf constraint
    let targets ← normalizer.direct rest
    return (environment, version) :: targets

/-- The targets with the chrome version of an electron version, which replaces one named
directly. -/
def withElectron (normalizer : Normalizer) (targets : CanonicalTargets) (version : String) :
    Traced CanonicalTargets := do
  let chrome ← Traced.of (chromeOfElectron normalizer.electron version)
  Traced.log .debug .normalize ("Electron " ++ version ++ " maps to chrome " ++ chrome.shown)
  return targets.insert "chrome" chrome

/-- The targets over those of the browser queries. -/
def withBrowsers (normalizer : Normalizer) (targets : CanonicalTargets) (queries : List String) :
    Traced CanonicalTargets := do
  -- The resolver sees the queries as they were given.
  Traced.emit (.query queries)
  let releases ← Traced.of (normalizer.resolve queries)
  let lowest ← lowestVersions releases
  -- What is named directly, or by an electron version, stands over the queries.
  let merged := Entries.overlay (lowest.map fun (name, n) => (name, Value.int n)) targets
  Traced.log .debug .normalize
    ("Browser query " ++ inParentheses queries ++ " resolved to " ++ (Value.map merged).written)
  return merged

/-- The canonical targets of a specification. -/
def resolveSpec (normalizer : Normalizer) (spec : TargetSpec) : Traced CanonicalTargets := do
  let direct ← normalizer.direct spec.environments
  let targets ←
    match spec.electron with
    | none => pure direct
    | some version => normalizer.withElectron direct version
  match spec.browsers with
  | none => pure targets
  | some queries => normalizer.withBrowsers targets queries

/-- The canonical targets of a value that is read as a specification first. -/
def normalize (normalizer : Normalizer) (raw : Value) : Traced CanonicalTargets := do
  let spec ← TargetSpec.read normalizer.writing raw
  normalizer.resolveSpec spec

end Normalizer

end TransformPreset
