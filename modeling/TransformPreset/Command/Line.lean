import TransformPreset.Command.Arguments
import TransformPreset.Settings.Disk
import TransformPreset.Text.Word

/-!
# The command line

A command line names a command and gives it options. There are three commands, each with a short
name: one resolves a preset, one shows the canonical targets, and one lists what there is. A command
line that is none of the grammar is refused as a whole; one that asks for help gets it even if what
else it says would be refused later, and so does one that says nothing at all.
-/

namespace TransformPreset

/-- The options of the command line that settle the options of a preset. -/
structure SettingsArguments where
  /-- The settings file. -/
  config : Option String := none
  /-- The targets. -/
  targets : List String := []
  /-- Names to include. -/
  included : List String := []
  /-- Names to exclude. -/
  excluded : List String := []
  /-- Whether polyfills are selected. -/
  useBuiltIns : Option Bool := none
  /-- The module type. -/
  moduleType : Option String := none
  /-- Whether transformations may be loose. -/
  loose : Option Bool := none
  /-- Whether the debug report is asked for. -/
  debug : Option Bool := none
deriving DecidableEq

/-- A command with what it is asked. -/
inductive Command
  /-- Resolve a preset, with units of bundles, and show it. -/
  | resolve (settings : SettingsArguments) (bundles : List String) (json : Bool)
  /-- Show the canonical targets. -/
  | targets (settings : SettingsArguments) (json : Bool)
  /-- List the units, with those of bundles, and the built-ins. -/
  | list (bundles : List String)
deriving DecidableEq

/-- The commands by name. -/
inductive CommandName
  /-- Resolve a preset. -/
  | resolve
  /-- Show the canonical targets. -/
  | targets
  /-- List what there is. -/
  | list
deriving DecidableEq

namespace CommandName

/-- The command of a name, which may be short. -/
def ofText? : String → Option CommandName
  | "resolve" | "r" => some .resolve
  | "targets" | "tg" => some .targets
  | "list" | "ls" => some .list
  | _ => none

/-- The options that a command takes. -/
def options : CommandName → List OptionTag
  | .resolve =>
    [.help, .config, .target, .included, .excluded, .useBuiltIns true, .useBuiltIns false,
      .moduleType, .loose true, .loose false, .debug true, .debug false, .plugin, .json, .noColor,
      .logLevel]
  | .targets => [.help, .config, .target, .json, .noColor, .logLevel]
  | .list => [.help, .plugin, .noColor]

end CommandName

/-! ## Options that were given -/

namespace GivenOption

/-- Whether an option is among those given. -/
def has (given : List GivenOption) (tag : OptionTag) : Bool :=
  given.any fun option => option.tag == tag

/-- The values that an option was given, in order. -/
def values (given : List GivenOption) (tag : OptionTag) : List String :=
  (given.filter fun option => option.tag == tag).map GivenOption.value

/-- The last value that an option was given. -/
def lastValue? (given : List GivenOption) (tag : OptionTag) : Option String :=
  (values given tag).getLast?

/-- How a choice was made last. -/
def lastChoice? (given : List GivenOption) (choice : Bool → OptionTag) : Option Bool :=
  (given.filterMap fun option =>
    if option.tag = choice true then some true
    else if option.tag = choice false then some false
    else none).getLast?

end GivenOption

/-- The options that settle those of a preset. -/
def SettingsArguments.ofGiven (given : List GivenOption) : SettingsArguments where
  config := GivenOption.lastValue? given .config
  targets := GivenOption.values given .target
  included := GivenOption.values given .included
  excluded := GivenOption.values given .excluded
  useBuiltIns := GivenOption.lastChoice? given .useBuiltIns
  moduleType := GivenOption.lastValue? given .moduleType
  loose := GivenOption.lastChoice? given .loose
  debug := GivenOption.lastChoice? given .debug

/-- The command of a name with the options given. -/
def Command.ofGiven (given : List GivenOption) : CommandName → Command
  | .resolve =>
    .resolve (.ofGiven given) (GivenOption.values given .plugin) (GivenOption.has given .json)
  | .targets => .targets (.ofGiven given) (GivenOption.has given .json)
  | .list => .list (GivenOption.values given .plugin)

/-- The log level of a name. -/
def LogLevel.ofText? : String → Option LogLevel
  | "debug" => some .debug
  | "info" => some .info
  | "warning" => some .warning
  | "error" => some .error
  | _ => none

/-- The least level of the log entries to show: warnings, unless another one is given. -/
def logLevel? (given : List GivenOption) : Option LogLevel :=
  match GivenOption.lastValue? given .logLevel with
  | none => some .warning
  | some name => LogLevel.ofText? name

/-! ## Command lines -/

/-- What a command line comes to. -/
inductive CommandLine
  /-- The help page is asked for. -/
  | help
  /-- The command line is refused. -/
  | refused
  /-- The path of the settings file is one that no file can have. -/
  | unusablePath
  /-- A command is asked for, with log entries from a level on. -/
  | run (command : Command) (level : LogLevel)
deriving DecidableEq

namespace CommandLine

/-- What the value of an option comes to if it cannot be used: the last one that the option was
given counts. -/
def fault? (given : List GivenOption) : OptionTag → Option CommandLine
  | .config =>
    if (GivenOption.lastValue? given .config).any (·.contains nul) then some .unusablePath
    else none
  | .logLevel => if (logLevel? given).isNone then some .refused else none
  | _ => none

/-- Reads what follows the name of a command. -/
def readCommand (name : CommandName) (arguments : List String) : CommandLine :=
  match readArguments name.options true arguments with
  | none => .refused
  | some (given, others) =>
    -- Help is given before values and other arguments are checked.
    if GivenOption.has given .help then .help
    else
      -- Values are checked in the order in which the options came first.
      match (given.map GivenOption.tag).findSome? (fault? given), others, logLevel? given with
      | some fault, _, _ => fault
      | none, [], some level => .run (.ofGiven given name) level
      | none, _, _ => .refused

/-- Whether a text that names no command is taken for a wish for help: it starts with a character
that is neither a letter nor a digit. -/
def wishesHelp (name : String) : Bool :=
  name.toList.head?.any fun c => !isWord c || c == '_'

/-- Reads the name of a command and what follows it. -/
def readNamed : List String → CommandLine
  | [] => .refused
  | name :: rest =>
    match CommandName.ofText? name with
    | some command => readCommand command rest
    | none => if wishesHelp name then .help else .refused

/-- Reads a command line; an empty one asks for help. -/
def read (arguments : List String) : CommandLine :=
  if arguments.isEmpty then .help
  else
    match readArguments [.help] false arguments with
    | none => .refused
    | some (given, rest) => if GivenOption.has given .help then .help else readNamed rest

end CommandLine

end TransformPreset
