import TransformPreset.Command.Gather
import TransformPreset.Console.Basic
import TransformPreset.Number.Written
import TransformPreset.Preset.Session

/-!
# Running commands

A command either shows what it is asked for or fails. A failure that is the user's is reported; any
other one escapes, and so does each one that comes up only while the answer is shown. Commands run
against the shipped tables. What they rely on of the console is gathered in `Console.Lawful`.
-/

namespace TransformPreset

/-- The outside world of a command. -/
structure Host where
  /-- Where settings files are looked for. -/
  settings : SettingsPlace
  /-- What asking the runtime for its version comes to. -/
  runtime : RuntimeReply
  /-- The console. -/
  console : Console
  /-- Where units come from besides the tables. -/
  sources : UnitSources := {}
  /-- What can be written in a message of a command. -/
  writing : Writing := {}

namespace Host

/-- The session of a command, with a registry if the command has one. -/
def session (host : Host) (given? : Option Registry) : Session where
  nodeVersion := do return .float (← runtimeVersion host.runtime)
  sources := host.sources
  registry := given?
  writing := host.writing

/-- The registry of a command, with the units of bundles. -/
def discover (host : Host) (bundles : List String) : Except Failure Registry :=
  Registry.discover shippedTables host.sources bundles

/-- The session in which a command builds a preset. -/
def buildSession (host : Host) (registry : Registry) : Session :=
  { host.session (some registry) with writing := host.writing.inner }

/-- The preset that a command resolves. -/
def resolvePreset (host : Host) (arguments : SettingsArguments) (bundles : List String) :
    Traced Preset := do
  let options ← host.settings.gather arguments
  let registry ← Traced.of (host.discover bundles)
  -- A build reads the options inside of one more call than the command that shows targets.
  ((host.buildSession registry).build (.raw (.map options))).2

/-- The canonical targets that a command shows. -/
def resolveTargets (host : Host) (arguments : SettingsArguments) : Traced CanonicalTargets := do
  let options ← host.settings.gather arguments
  let validated ←
    PresetOptions.read host.writing (some shippedTables.knownNames) (.map options)
  (host.session none).normalizer.resolveSpec validated.targets

/-- The host of a command whose log has entries from a level on. -/
def logging (host : Host) (least : LogLevel) : Host :=
  { host with
    writing := { host.writing with warns := decide (least.rank ≤ LogLevel.warning.rank) } }

end Host

/-! ## What commands show -/

/-- The most lists and maps that one in an answer of a command lies in, so none is too deep. -/
def answerLevels : Nat := 4

/-- The JSON of a value, with the keys of maps in order. -/
def answerText (value : Value) : Except Failure String :=
  Json.write .lines answerLevels (Json.sortKeys value)

namespace ConfiguredUnit

/-- A unit in JSON. -/
def toValue (configured : ConfiguredUnit) : Value :=
  .map [("unit", .text configured.unit.id), ("package", .text configured.unit.package),
    ("options", configured.options.toValue)]

/-- The row of a unit, with its number. -/
def row (console : Console) (number : Nat) (configured : ConfiguredUnit) :
    Except Failure (List String) := do
  let options ← Json.write .oneLine answerLevels (Json.sortKeys configured.options.toValue)
  return [writtenInt number, configured.unit.id, configured.unit.package, console.escape options]

/-- The rows of units, the first of which has the given number. -/
def rows (console : Console) (number : Nat) :
    List ConfiguredUnit → Except Failure (List (List String))
  | [] => .ok []
  | configured :: rest => do
    return (← row console number configured) :: (← rows console (number + 1) rest)

end ConfiguredUnit

/-- A preset in JSON. -/
def Preset.toValue (preset : Preset) : Value :=
  .map [("targets", .map preset.targets),
    ("module_type", ((preset.moduleType.map fun t => Value.text t.name).getD .null)),
    ("plugins", .list (preset.plugins.map ConfiguredUnit.toValue))]

/-- A preset on the screen. -/
def Preset.items (console : Console) (preset : Preset) (json : Bool) :
    Except Failure (List ScreenItem) :=
  if json then (answerText preset.toValue).map console.printText
  else do
    let rows ← ConfiguredUnit.rows console 1 preset.plugins
    console.printTable
      { title := "Units"
        columns := [⟨"#", true⟩, ⟨"Unit", false⟩, ⟨"Package", false⟩, ⟨"Options", false⟩]
        rows }

/-- A version in a table. -/
def versionCell (version : Value) : Except Failure String :=
  version.toFloat.map Binary64.writtenGeneral

/-- The rows of canonical targets. -/
def targetRows : CanonicalTargets → Except Failure (List (List String))
  | [] => .ok []
  | (environment, version) :: rest => do
    return [environment, ← versionCell version] :: (← targetRows rest)

/-- The notice that there are no targets. -/
def noTargetsNotice : String :=
  "[dim]No targets: every transformation is required.[/dim]"

/-- Canonical targets on the screen. -/
def targetItems (console : Console) (targets : CanonicalTargets) (json : Bool) :
    Except Failure (List ScreenItem) :=
  if json then (answerText (.map targets)).map console.printText
  else if targets.isEmpty then console.printMarkup noTargetsNotice
  else do
    let rows ← targetRows (Entries.sorted targets)
    console.printTable
      { title := "Targets"
        columns := [⟨"Environment", false⟩, ⟨"Minimum Version", true⟩]
        rows }

/-- The units of a registry in a table. -/
def registryTable (registry : Registry) : TableMarkup where
  title := "Units"
  columns := [⟨"ID", false⟩, ⟨"Package", false⟩]
  rows := registry.list.map fun unit => [unit.id, unit.package]

/-- The built-ins of tables in a table. -/
def builtInTable (tables : CapabilityTables) : TableMarkup where
  title := "Built-ins"
  columns := [⟨"Name", false⟩, ⟨"Default", false⟩]
  rows := (sortNames (distinct (tables.builtIns.keys ++ tables.defaultInclude))).map fun name =>
    [name, if tables.defaultInclude.contains name then "yes" else ""]

/-- What a listing shows. -/
def listItems (console : Console) (registry : Registry) (tables : CapabilityTables) :
    Except Failure (List ScreenItem) := do
  return (← console.printTable (registryTable registry)) ++
    (← console.printTable (builtInTable tables))

/-! ## Outcomes -/

/-- An entry of the log. -/
structure LogEntry where
  /-- How urgent it is. -/
  level : LogLevel
  /-- Who wrote it. -/
  source : LogSource
  /-- What it says. -/
  message : String
deriving DecidableEq

/-- The log entry that an event is, if it is one at a level or above. -/
def Event.entry? (least : LogLevel) : Event → Option LogEntry
  | .log level source message =>
    if least.rank ≤ level.rank then some ⟨level, source, message⟩ else none
  | _ => none

/-- How a command ended. -/
structure CommandOutcome where
  /-- The exit status. -/
  status : Nat
  /-- What is on the screen, in order. -/
  screen : List ScreenItem
  /-- The log. -/
  log : List LogEntry
  /-- The failure that escaped, if one did. -/
  escaped : Option Failure := none

namespace Command

/-- What a command comes to: what it shows, or why its answer cannot be shown. -/
def work (host : Host) : Command → Traced (Except Failure (List ScreenItem))
  | .resolve settings bundles json => do
    return (← host.resolvePreset settings bundles).items host.console json
  | .targets settings json => do
    return targetItems host.console (← host.resolveTargets settings) json
  | .list bundles => do
    return listItems host.console (← Traced.of (host.discover bundles)) shippedTables

/-- The words before the message of a failure. -/
def lead : Command → String
  | .list _ => "failed to load units: "
  | _ => ""

/-- Whether a command reports failures of a kind; it leaves the others to escape. -/
def reports : Command → Failure.Kind → Bool
  | .resolve .., kind => kind.isOfPreset || kind.isOfValue || kind.isOfSystem || kind.isOfImport
  | .targets .., kind => kind.isOfPreset || kind.isOfValue || kind.isOfSystem
  | .list _, kind => kind.isOfPreset || kind.isOfValue || kind.isOfImport

/-- The markup before a reported failure. -/
def errorLead : String :=
  "[bold red]error[/bold red]: "

/-- The report of a failure. -/
def report (console : Console) (command : Command) (failure : Failure) :
    Except Failure (List ScreenItem) :=
  if command.reports failure.kind then
    console.printMarkup (errorLead ++ console.escape (command.lead ++ failure.message))
  else .error failure

/-- How a command ends, with the log entries from a level on. -/
def run (host : Host) (command : Command) (least : LogLevel) : CommandOutcome :=
  let work := command.work (host.logging least)
  let printed := (work.events.filterMap Event.line?).flatMap host.console.printText
  let log := work.events.filterMap (Event.entry? least)
  match work.result with
  | .ok (.ok items) => { status := 0, screen := printed ++ items, log }
  | .ok (.error escaped) => { status := 1, screen := printed, log, escaped := some escaped }
  | .error failure =>
    -- What is no failure of the user escapes, with nothing shown for it.
    match command.report host.console failure with
    | .ok items => { status := 1, screen := printed ++ items, log }
    | .error escaped => { status := 1, screen := printed, log, escaped := some escaped }

end Command

/-- What commands rely on of a console. -/
structure Console.Lawful (console : Console) : Prop where
  /-- A text that was escaped can be printed behind the word for an error, which is shown first. -/
  error : ∀ text, ∃ rest,
    console.printMarkup (Command.errorLead ++ console.escape text) =
      .ok (console.printText ("error" ++ rest))
  /-- The notice that there are no targets can be printed. -/
  notice : ∃ items, console.printMarkup noTargetsNotice = .ok items
  /-- A table can be printed if each of its cells is escaped or holds no bracket that could open a
  tag. -/
  table : ∀ table : TableMarkup,
    (∀ row ∈ table.rows, ∀ cell ∈ row,
      '[' ∉ cell.toList ∨ ∃ text, cell = console.escape text) →
    ∃ items, console.printTable table = .ok items

end TransformPreset
