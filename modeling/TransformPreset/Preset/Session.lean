import TransformPreset.Capability.Shipped
import TransformPreset.Preset.Basic
import TransformPreset.Preset.Report

/-!
# Sessions

A session is what consecutive builds share. It remembers two things: the registry of units, which is
discovered when it is first asked for and kept from then on, and whether the debug report has been
printed. `Session.build` makes a plan, prints the report on it if it is asked for and was not
printed before, and looks the units up; a plan that fails leaves the session as it was.
-/

namespace TransformPreset

/-- What consecutive builds share. -/
structure Session where
  /-- The tables. -/
  tables : CapabilityTables := shippedTables
  /-- The release resolver. -/
  resolve : ReleaseResolver := literalReleases
  /-- The version of the running runtime. -/
  nodeVersion : Traced Value
  /-- Where units come from. -/
  sources : UnitSources := {}
  /-- The registry, once it is discovered or given. -/
  registry : Option Registry := none
  /-- Whether the debug report has been printed. -/
  debugPrinted : Bool := false
  /-- What can be written. -/
  writing : Writing := {}

namespace Session

/-- The normalizer of the session. -/
def normalizer (session : Session) : Normalizer where
  electron := session.tables.electron
  resolve := session.resolve
  nodeVersion := session.nodeVersion
  writing := session.writing

/-- The registry, which is discovered and kept if there is none. -/
def units (session : Session) : Session × Except Failure Registry :=
  match session.registry with
  | some registry => (session, .ok registry)
  | none =>
    match Registry.discover session.tables session.sources [] with
    -- The registry is kept from here on, whatever becomes of the tables.
    | .ok registry => ({ session with registry := some registry }, .ok registry)
    | .error failure => (session, .error failure)

/-- Claims the debug report: true for the first claim only. -/
def claim (session : Session) : Session × Bool :=
  ({ session with debugPrinted := true }, !session.debugPrinted)

/-- Prints the report on a plan if the plan asks for it and it can be claimed. -/
def announce (session : Session) (plan : Plan) : Session × Traced Unit :=
  if plan.debug then
    let (claimed, first) := session.claim
    -- The claim is made before the report is printed, and stays made if printing fails.
    (claimed, if first then plan.printReport session.tables session.writing else return ())
  else (session, return ())

/-- The preset of a plan, with the units of a registry. -/
def finish (session : Session) (plan : Plan) (registry : Registry) : Traced Preset := do
  let plugins ← Traced.of (plan.assemble session.tables registry)
  Traced.log .info .builder
    ("Resolved " ++ writtenInt plugins.length ++ " unit(s) for " ++
      writtenInt plan.targets.length ++ " target environment(s)")
  return plan.toPreset plugins

/-- Looks up the units of a plan. -/
def complete (session : Session) (plan : Plan) : Session × Traced Preset :=
  match session.units with
  | (next, .ok registry) => (next, next.finish plan registry)
  | (next, .error failure) => (next, Traced.fail failure)

/-- Prints the report on a plan and looks up its units. -/
def carryOut (session : Session) (plan : Plan) : Session × Traced Preset :=
  let (announced, report) := session.announce plan
  match report.result with
  | .error failure => (announced, ⟨report.events, .error failure⟩)
  | .ok _ =>
    let (next, preset) := announced.complete plan
    (next, ⟨report.events ++ preset.events, preset.result⟩)

/-- Builds a preset. -/
def build (session : Session) (input : OptionsInput) : Session × Traced Preset :=
  let plan := Plan.make session.tables session.normalizer input
  match plan.result with
  | .error failure => (session, ⟨plan.events, .error failure⟩)
  | .ok made =>
    let (next, preset) := session.carryOut made
    (next, ⟨plan.events ++ preset.events, preset.result⟩)

end Session

end TransformPreset
