import TransformPreset.Signal
import TransformPreset.Value.Written

/-!
# Failures

Every way in which a preset can fail to resolve, by its cause. `Failure.kind` sorts the causes into
the classes that a caller can tell apart, and `Failure.message` is the one place that words them.
What is provided from outside, such as a module or a file system, fails in ways of its own, which
come with their class and their words.
-/

namespace TransformPreset

/-- The classes of failures that a caller can tell apart. -/
inductive Failure.Kind
  /-- The options or the targets are wrong. -/
  | config
  /-- A version is not supported. -/
  | unsupportedVersion
  /-- A version is malformed. -/
  | malformedVersion
  /-- A unit is missing from the registry. -/
  | unknownCapability
  /-- A text, a table or a bundle is wrong. -/
  | value
  /-- A key is missing from a table. -/
  | key
  /-- A number is out of range. -/
  | overflow
  /-- A value is of the wrong type for an operation. -/
  | type
  /-- A thing lacks what is asked of it. -/
  | attribute
  /-- A module is missing. -/
  | moduleNotFound
  /-- A module cannot be imported for another reason. -/
  | importFailed
  /-- A file is missing. -/
  | fileNotFound
  /-- A file is a directory. -/
  | isDirectory
  /-- A directory is a file. -/
  | notDirectory
  /-- A file may not be read. -/
  | permission
  /-- The system refuses something for another reason. -/
  | system
  /-- A file is not in TOML. -/
  | toml
  /-- Bytes are not in UTF-8. -/
  | encoding
  /-- Console markup is malformed. -/
  | markup
  /-- A thing is nested too deeply. -/
  | depth
  /-- Any other class. -/
  | other
deriving DecidableEq

namespace Failure.Kind

/-- Whether failures of the kind are those of resolving a preset. -/
def isOfPreset : Failure.Kind → Bool
  | .config | .unsupportedVersion | .malformedVersion | .unknownCapability => true
  | _ => false

/-- Whether failures of the kind are those of a wrong value. -/
def isOfValue : Failure.Kind → Bool
  | .config | .unsupportedVersion | .malformedVersion | .value | .toml | .encoding => true
  | _ => false

/-- Whether failures of the kind are those of the system. -/
def isOfSystem : Failure.Kind → Bool
  | .fileNotFound | .isDirectory | .notDirectory | .permission | .system => true
  | _ => false

/-- Whether failures of the kind are those of importing a module. -/
def isOfImport : Failure.Kind → Bool
  | .moduleNotFound | .importFailed => true
  | _ => false

end Failure.Kind

/-- What a thing from outside raises of its own. -/
structure Raised where
  /-- Its class. -/
  kind : Failure.Kind
  /-- Its words. -/
  words : String
deriving DecidableEq

/-- Why the system refuses something. -/
structure SystemFault where
  /-- The number of the error. -/
  number : Nat
  /-- The words for it. -/
  words : String
deriving DecidableEq

namespace SystemFault

/-- There is no such file. -/
def missing : SystemFault :=
  ⟨2, "No such file or directory"⟩

/-- A path leads through a file. -/
def throughFile : SystemFault :=
  ⟨20, "Not a directory"⟩

/-- A directory was read as a file. -/
def isDirectory : SystemFault :=
  ⟨21, "Is a directory"⟩

/-- A path, or a name in it, is longer than any on a disk. -/
def nameTooLong : SystemFault :=
  ⟨36, "File name too long"⟩

/-- The kind of failures for the fault. -/
def kind (fault : SystemFault) : Failure.Kind :=
  match fault.number with
  | 2 => .fileNotFound
  | 20 => .notDirectory
  | 21 => .isDirectory
  | 1 | 13 => .permission
  | _ => .system

end SystemFault

/-- Why the version of the running runtime could not be asked for. -/
inductive RuntimeFault
  /-- The runtime ended with a status other than zero, or by the signal whose number is the status
  without its minus sign. -/
  | exited (status : Int)
  /-- The runtime did not answer in time. -/
  | timedOut
deriving DecidableEq

/-- The cause of a failure. -/
inductive Failure
  /-- The targets are no table. -/
  | targetsNotTable
  /-- The version of an environment is no number. -/
  | versionNotNumber (environment : String) (value : Value)
  /-- The version of electron is neither a text nor a number. -/
  | electronNotText (value : Value)
  /-- The version of electron does not start with a major and a minor number. -/
  | electronNotVersion
  /-- The table has no such electron version. -/
  | electronUnknown (majorMinor : String)
  /-- A fragment of a browser query is no release. -/
  | releaseNotLiteral (fragment : String)
  /-- A release resolver gave up. -/
  | resolverFailed (reason : String)
  /-- There is no runtime to ask for its version. -/
  | runtimeMissing
  /-- The runtime could not be asked. -/
  | runtimeUnreadable (fault : RuntimeFault)
  /-- The runtime printed something that starts with no number. -/
  | runtimeVersionUnreadable (printed : String)
  /-- The options are no table. -/
  | optionsNotTable
  /-- Some options are unknown. -/
  | unknownOptions (names : List String)
  /-- The option `targets` is no table. -/
  | targetsOptionNotTable
  /-- An option is no list of names. -/
  | namesNotList (option : String)
  /-- An item of an option is no name. -/
  | nameBlank (option : String) (index : Nat)
  /-- An option holds names that no table has. -/
  | namesUnknown (option : String) (names : List String)
  /-- An option is no truth value. -/
  | optionNotBool (option : String)
  /-- The option `module_type` is no module type. -/
  | moduleTypeUnknown
  /-- No unit is registered under an id. -/
  | unitMissing (id : String)
  /-- A unit is registered under an id already. -/
  | unitDuplicate (id : String)
  /-- A bundle is asked for in a wrong form. -/
  | bundleSpecMalformed
  /-- There is no such module. -/
  | moduleMissing (name : String)
  /-- The parent of a module holds no modules. -/
  | moduleNotPackage (name parent : String)
  /-- A module is named from a place that is not known. -/
  | moduleRelative (name : String)
  /-- A module has no such member. -/
  | memberMissing (moduleName member : String)
  /-- A member of a module is no bundle of units. -/
  | notBundle (spec : String)
  /-- A thing that was provided as a unit is none. -/
  | notUnit
  /-- A function that was provided for a bundle cannot be called without arguments. -/
  | callRefused
  /-- A module, or a function that it provides, raised something of its own. -/
  | raised (raised : Raised)
  /-- The tables have no transformation for a module type. -/
  | moduleTypeUnmapped (moduleType : String)
  /-- A capability table is no table. -/
  | tableNotObject (table : String)
  /-- The entry of a capability is no table. -/
  | capabilityNotObject (capability table : String)
  /-- A text writes no number. -/
  | floatUnreadable (text : String)
  /-- A text writes no integer. -/
  | integerUnreadable (text : String)
  /-- An integer has too many digits. -/
  | tooManyDigits (digits : Nat)
  /-- An integer has no nearest binary64 number. -/
  | integerTooLarge
  /-- An integer has too many digits to be written. -/
  | integerTooLong
  /-- A value, or the text of one, is nested too deeply. -/
  | nestedTooDeeply
  /-- A value has no place among numbers. -/
  | notComparable
  /-- A value that is looked up in is no table. -/
  | notTable
  /-- A value writes no entries of a table. -/
  | notPairs
  /-- A value that should write an entry of a table has another number of parts than two. -/
  | pairOfOtherLength (index parts : Nat)
  /-- A value has no number. -/
  | noFloat
  /-- A value has no serialised form. -/
  | notSerializable
  /-- A target argument is not of the form `key=value`. -/
  | targetArgumentMalformed
  /-- A configuration file that was asked for is not there. -/
  | configMissing (path : String)
  /-- A project file could not be read for its options. -/
  | projectUnreadable (path : String) (cause : Failure)
  /-- A project file has no table of options. -/
  | projectTableMissing (path : String)
  /-- The table of options of a project file is no table. -/
  | projectTableNotTable
  /-- The system refuses a path. -/
  | pathRefused (fault : SystemFault) (path : String)
  /-- A path holds a character that no path can. -/
  | pathUnusable
  /-- A file is not in TOML. -/
  | tomlMalformed
  /-- Bytes that should be a text are not in UTF-8. -/
  | notUtf8
  /-- A closing tag of console markup names no tag that is open. -/
  | tagNotOpen (tag : String) (place : Nat)
  /-- A closing tag of console markup without a name stands where no tag is open. -/
  | noTagOpen (place : Nat)
  /-- The parameters of an action in console markup are no literal. -/
  | actionUnreadable (parameters : String)

namespace Failure

/-- The kind of a failure. -/
def kind : Failure → Failure.Kind
  | .targetsNotTable | .versionNotNumber .. | .releaseNotLiteral _ | .resolverFailed _
  | .runtimeMissing | .runtimeUnreadable _ | .runtimeVersionUnreadable _ | .optionsNotTable
  | .unknownOptions _ | .targetsOptionNotTable | .namesNotList _ | .nameBlank .. | .namesUnknown ..
  | .optionNotBool _ | .moduleTypeUnknown => .config
  | .electronUnknown _ => .unsupportedVersion
  | .electronNotText _ | .electronNotVersion => .malformedVersion
  | .unitMissing _ => .unknownCapability
  | .unitDuplicate _ | .bundleSpecMalformed | .memberMissing .. | .notBundle _
  | .tableNotObject _ | .capabilityNotObject .. | .floatUnreadable _ | .integerUnreadable _
  | .tooManyDigits _
  | .targetArgumentMalformed | .configMissing _ | .projectUnreadable .. | .projectTableMissing _
  | .projectTableNotTable | .integerTooLong | .pathUnusable | .pairOfOtherLength .. => .value
  | .moduleTypeUnmapped _ => .key
  | .integerTooLarge => .overflow
  | .notComparable | .notPairs | .noFloat | .notSerializable | .moduleRelative _
  | .callRefused => .type
  | .notUnit | .notTable => .attribute
  | .moduleMissing _ | .moduleNotPackage .. => .moduleNotFound
  | .pathRefused fault _ => fault.kind
  | .tomlMalformed => .toml
  | .notUtf8 => .encoding
  | .tagNotOpen .. | .noTagOpen _ | .actionUnreadable _ => .markup
  | .nestedTooDeeply => .depth
  | .raised thrown => thrown.kind

/-- A name between backticks. -/
def marked (name : String) : String :=
  "`" ++ name ++ "`"

end Failure

/-- The words for a runtime that could not be asked. -/
def RuntimeFault.message : RuntimeFault → String
  | .exited status =>
    "Command '['/usr/bin/node', '--version']' " ++
      match status, signalName? status.natAbs with
      | .ofNat _, _ => "returned non-zero exit status " ++ writtenInt status ++ "."
      | .negSucc _, some name =>
        "died with <Signals." ++ name ++ ": " ++ writtenInt status.natAbs ++ ">."
      | .negSucc _, none => "died with unknown signal " ++ writtenInt status.natAbs ++ "."
  | .timedOut => "Command '['/usr/bin/node', '--version']' timed out after 5 seconds"

namespace Failure

/-- The words for a failure. -/
def message : Failure → String
  | .targetsNotTable => "`targets` must be a table/object of environment constraints"
  | .versionNotNumber environment value =>
    "target version must be a number, " ++ marked value.written ++ " was given for " ++
      marked environment
  | .electronNotText value =>
    "electron version must be a version string, got " ++ marked value.written
  | .electronNotVersion => "electron version must be a semver version"
  | .electronUnknown majorMinor =>
    "electron version " ++ majorMinor ++ " is either too old or too new"
  | .releaseNotLiteral fragment =>
    "browser query " ++ marked fragment ++ " is not a literal `<name> <version>` release; " ++
      "configure a release resolver that understands it"
  | .resolverFailed reason => reason
  | .runtimeMissing => "`node: current` requires a `node` executable on PATH"
  | .runtimeUnreadable fault => "could not read the running node version: " ++ fault.message
  | .runtimeVersionUnreadable printed =>
    "could not parse node version from " ++ marked printed
  | .optionsNotTable => "preset options must be a table/object"
  | .unknownOptions names => "invalid option: unknown key(s) " ++ ", ".intercalate names
  | .targetsOptionNotTable => "invalid option: `targets` must be a table/object"
  | .namesNotList option =>
    "invalid option: " ++ marked option ++ " must be an array of capability names"
  | .nameBlank option index =>
    "invalid option: " ++ marked (option ++ "[" ++ writtenInt index ++ "]") ++
      " must be a non-empty string"
  | .namesUnknown option names =>
    "invalid option: the plugins/built-ins " ++ ", ".intercalate (names.map marked) ++
      " passed to " ++ marked option ++ " are not valid"
  | .optionNotBool option => "invalid option: " ++ marked option ++ " must be a boolean"
  | .moduleTypeUnknown =>
    "invalid option: `module_type` must be false or one of `amd`, `commonjs`, `systemjs`, `umd`"
  | .unitMissing id => "no unit is registered for capability " ++ marked id
  | .unitDuplicate id => "duplicate unit id: " ++ id
  | .bundleSpecMalformed =>
    "unit spec must use 'module:attribute', for example 'my_units:unit_bundle'"
  | .moduleMissing name => "No module named " ++ quoted name
  | .moduleNotPackage name parent =>
    "No module named " ++ quoted name ++ "; " ++ quoted parent ++ " is not a package"
  | .moduleRelative name =>
    "the 'package' argument is required to perform a relative import for " ++ quoted name
  | .memberMissing moduleName member =>
    "module '" ++ moduleName ++ "' has no attribute '" ++ member ++ "'"
  | .notBundle spec =>
    "'" ++ spec ++ "' must resolve to a UnitBundle or callable returning one"
  | .notUnit => "an entry point must load to a unit or a callable returning one"
  | .callRefused => "a bundle must be found without any argument"
  | .raised thrown => thrown.words
  | .moduleTypeUnmapped moduleType => quoted moduleType
  | .tableNotObject table => "capability table " ++ marked table ++ " must be a JSON object"
  | .capabilityNotObject capability table =>
    "capability " ++ marked capability ++ " in " ++ marked table ++ " must map to an object"
  | .floatUnreadable text => "could not convert string to float: " ++ quoted text
  | .integerUnreadable text => "invalid literal for int() with base 10: " ++ quoted text
  | .tooManyDigits digits =>
    "Exceeds the limit (4300 digits) for integer string conversion: value has " ++
      writtenInt digits ++ " digits; use sys.set_int_max_str_digits() to increase the limit"
  | .integerTooLarge => "int too large to convert to float"
  | .integerTooLong =>
    "Exceeds the limit (4300 digits) for integer string conversion; " ++
      "use sys.set_int_max_str_digits() to increase the limit"
  | .nestedTooDeeply => "a value is nested too deeply"
  | .notTable => "a value to look up in must be a table"
  | .notPairs => "a layer of options must be a table or entries of one"
  | .pairOfOtherLength index parts =>
    "dictionary update sequence element #" ++ writtenInt index ++ " has length " ++
      writtenInt parts ++ "; 2 is required"
  | .notComparable => "a version can be compared with a number only"
  | .noFloat => "a version in a table must be a number or a text of one"
  | .notSerializable => "a target specification has no serialised form"
  | .targetArgumentMalformed =>
    "targets must use `key=value` format; example: --target chrome=50"
  | .configMissing path => "config file was not found: " ++ path
  | .projectUnreadable path cause => "failed to read " ++ path ++ ": " ++ cause.message
  | .projectTableMissing path => path ++ " has no `[tool.envpreset]` table"
  | .projectTableNotTable => "`[tool.envpreset]` must be a TOML table"
  | .pathRefused fault path =>
    "[Errno " ++ writtenInt fault.number ++ "] " ++ fault.words ++ ": " ++ quoted path
  | .pathUnusable => "embedded null byte"
  | .tomlMalformed => "<toml error>"
  | .notUtf8 => "<decode error>"
  | .tagNotOpen tag place =>
    "closing tag '" ++ tag ++ "' at position " ++ writtenInt place ++
      " doesn't match any open tag"
  | .noTagOpen place =>
    "closing tag '[/]' at position " ++ writtenInt place ++ " has nothing to close"
  | .actionUnreadable parameters => "error parsing " ++ quoted parameters

end Failure

end TransformPreset
