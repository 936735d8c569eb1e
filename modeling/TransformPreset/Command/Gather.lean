import TransformPreset.Command.Line
import TransformPreset.Json.Reader
import TransformPreset.Settings.File
import TransformPreset.Settings.Layer
import TransformPreset.Target.Reading
import TransformPreset.Text.LowerCase

/-!
# The options of a command

A command takes its options from the settings file, if there is one, and lays those of its command
line over them. A target argument gives an environment a value, which is JSON if it can be read as
such and a text if not; arguments for `browsers` are queries and are gathered.
-/

namespace TransformPreset

/-! ## Target arguments -/

/-- The environment and the value of a target argument. -/
def splitTarget (argument : String) : Except Failure (String × String) :=
  let (key, value?) := partitionAt '=' argument.toList
  let environment := trim key
  match value? with
  | none => .error .targetArgumentMalformed
  | some value =>
    if environment.isEmpty then .error .targetArgumentMalformed
    else .ok (String.ofList environment, String.ofList value)

/-- The version of electron that a value gives. A text with half of a surrogate pair is no text, but
only the start of a version counts, and the form of such a text has the same start in its quotes. -/
def electronArgument : Value → Value
  | .other form =>
    match form.toList with
    | '"' :: rest | '\x27' :: rest => .text (String.ofList rest.dropLast)
    | _ => .other form
  | value => value

/-- The value that a target argument gives an environment. -/
def targetValue (environment text : String) : Except Failure Value :=
  match Json.read text with
  | .ok value => .ok (if environment = electronKey then electronArgument value else value)
  | .error .malformed => .ok (.text text)
  | .error (.tooManyDigits digits) => .error (.tooManyDigits digits)
  | .error .tooDeep => .error .nestedTooDeeply

/-- The targets with the gathered queries. -/
def withQueries (targets : Entries Value) : List String → Entries Value
  | [] => targets
  | [query] => targets.insert browsersKey (.text query)
  | queries => targets.insert browsersKey (.list (queries.map .text))

/-- The targets with those of further arguments. -/
def addTargets (targets : Entries Value) (queries : List String) :
    List String → Except Failure (Entries Value)
  | [] => .ok (withQueries targets queries)
  | argument :: rest => do
    let (environment, text) ← splitTarget argument
    -- Queries are texts as they stand and come last among the targets.
    if environment = browsersKey then addTargets targets (queries ++ [text]) rest
    else addTargets (targets.insert environment (← targetValue environment text)) queries rest

/-- The targets that arguments give. -/
def readTargetArguments (arguments : List String) : Except Failure (Entries Value) :=
  addTargets [] [] arguments

/-! ## Layers -/

/-- The words that ask for no module type, in lower case. -/
def noModuleWords : List String := ["false", "none", "off"]

/-- The value of a module type on the command line. -/
def moduleTypeValue (text : String) : Value :=
  if noModuleWords.contains (String.ofList (lowerCase text.toList)) then .bool false
  else .text text

/-- An option that is there if it was given. -/
def optionIfGiven (key : String) : Option Value → Entries Value
  | none => []
  | some value => [(key, value)]

/-- An option that is there if it was given names. -/
def optionOfNames (key : String) (names : List String) : Entries Value :=
  if names.isEmpty then [] else [(key, .list (names.map .text))]

namespace SettingsArguments

/-- The path of the settings file, if one was given. -/
def path? (arguments : SettingsArguments) : Option Path :=
  arguments.config.map Path.ofText

/-- The option `targets`, if targets were given. -/
def targetsOption (arguments : SettingsArguments) : Except Failure (Entries Value) :=
  if arguments.targets.isEmpty then .ok []
  else (readTargetArguments arguments.targets).map fun targets => [(targetsKey, .map targets)]

/-- The options of the command line. -/
def layer (arguments : SettingsArguments) : Except Failure (Entries Value) := do
  let targets ← arguments.targetsOption
  return targets ++ optionOfNames "include" arguments.included ++
    optionOfNames "exclude" arguments.excluded ++
    optionIfGiven "use_built_ins" (arguments.useBuiltIns.map .bool) ++
    optionIfGiven "module_type" (arguments.moduleType.map moduleTypeValue) ++
    optionIfGiven "loose" (arguments.loose.map .bool) ++
    optionIfGiven "debug" (arguments.debug.map .bool)

end SettingsArguments

/-- The path of the settings file that a command is given. -/
def Command.config? : Command → Option Path
  | .resolve settings _ _ | .targets settings _ => settings.path?
  | .list _ => none

/-- Where settings files are looked for, and how they are read. -/
structure SettingsPlace where
  /-- The disk. -/
  disk : Disk
  /-- The directory in which a command runs. -/
  directory : Path
  /-- The reader of settings files. -/
  reader : TableReader

namespace SettingsPlace

/-- The options of the settings file, if there is one. -/
def loadLayer (place : SettingsPlace) : Option Path → Traced (Entries Value)
  | none => return []
  | some path => do
    Traced.log .info .cli ("Using config file: " ++ path.text)
    Traced.of (loadSettings place.reader place.disk path)

/-- The options of a command. -/
def gather (place : SettingsPlace) (arguments : SettingsArguments) : Traced (Entries Value) := do
  let path? ← Traced.of (discoverSettings place.reader place.disk place.directory arguments.path?)
  let lower ← place.loadLayer path?
  let upper ← Traced.of arguments.layer
  return layerOptions lower upper

end SettingsPlace

end TransformPreset
