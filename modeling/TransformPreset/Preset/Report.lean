import TransformPreset.Json.Writer
import TransformPreset.Preset.Plan

/-!
# The debug report

The report shows the canonical targets and, for each transformation and each polyfill of a plan, the
versions that its table has for the targeted environments; an environment without a version shows as
null.
-/

namespace TransformPreset

/-- The versions that a table has of a name for the targeted environments. -/
def shownVersions (table : CapabilityTable) (targets : CanonicalTargets) (name : String) :
    Entries Value :=
  let versions := (table.get? name).getD []
  targets.map fun (environment, _) =>
    (environment, ((versions.get? environment).map Value.ofNumber).getD .null)

/-- Prints a line of the report. -/
def printLine (text : String) : Traced Unit :=
  Traced.emit (.line text)

/-- Prints a line for each name, with the versions that the table has of it. -/
def printNames (writing : Writing) (table : CapabilityTable) (targets : CanonicalTargets) :
    List String → Traced Unit
  | [] => return ()
  | name :: rest => do
    let versions ← Traced.of
      (Json.write .oneLine writing.levels (.map (shownVersions table targets name)))
    printLine ("  " ++ name ++ " " ++ versions)
    printNames writing table targets rest

/-- Prints the report on a plan. -/
def Plan.printReport (tables : CapabilityTables) (writing : Writing) (plan : Plan) :
    Traced Unit := do
  printLine "envpreset: `debug` option"
  printLine "\nUsing targets:"
  printLine (← Traced.of (Json.write .lines writing.levels (.map plan.targets)))
  printLine ("\nModules transform: " ++ ((plan.moduleType.map ModuleType.name).getD "false"))
  printLine "\nUsing plugins:"
  printNames writing tables.plugins plan.targets plan.transformations
  printLine "\nUsing polyfills:"
  printNames writing tables.builtIns plan.targets (plan.polyfills.getD [])

end TransformPreset
