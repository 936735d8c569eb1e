import TransformPreset.Names
import TransformPreset.Target.Reading
import TransformPreset.Text.Pieces

/-!
# Preset options

The options of a preset and how they are read from a table. The checks run in a fixed order, that of
the failures below: unknown options first, all of them at once, then each option in turn. Names to
include or exclude may be held to a list of known ones.
-/

namespace TransformPreset

/-- The module systems that a preset can transform to. -/
inductive ModuleType
  /-- Asynchronous module definitions. -/
  | amd
  /-- CommonJS modules. -/
  | commonjs
  /-- SystemJS modules. -/
  | systemjs
  /-- Universal module definitions. -/
  | umd
deriving DecidableEq

namespace ModuleType

/-- All module types. -/
def all : List ModuleType := [.amd, .commonjs, .systemjs, .umd]

/-- The name of a module type. -/
def name : ModuleType → String
  | .amd => "amd"
  | .commonjs => "commonjs"
  | .systemjs => "systemjs"
  | .umd => "umd"

/-- The module type of a name. -/
def ofName? (name : String) : Option ModuleType :=
  all.find? fun moduleType => moduleType.name == name

end ModuleType

/-- Validated options. -/
structure PresetOptions where
  /-- What is targeted. -/
  targets : TargetSpec := {}
  /-- Names that are always there. -/
  included : List String := []
  /-- Names that are not there unless they are included. -/
  excluded : List String := []
  /-- Whether polyfills are selected. -/
  useBuiltIns : Bool := false
  /-- The module system to transform to, if any. -/
  moduleType : Option ModuleType := some .commonjs
  /-- Whether transformations may be loose. -/
  loose : Bool := false
  /-- Whether the debug report is asked for. -/
  debug : Bool := false
deriving DecidableEq

/-- The options that a table may have. -/
def optionKeys : List String :=
  ["targets", "include", "exclude", "use_built_ins", "module_type", "loose", "debug"]

/-- An option that is true or false; it is false if it is absent. -/
def readBool (options : Entries Value) (key : String) : Except Failure Bool :=
  match options.get? key with
  | none => .ok false
  | some (.bool b) => .ok b
  | some _ => .error (.optionNotBool key)

/-- The module type; false asks for none, and it is `commonjs` if it is absent. -/
def readModuleType (options : Entries Value) : Except Failure (Option ModuleType) :=
  match options.get? "module_type" with
  | none => .ok (some .commonjs)
  | some (.bool false) => .ok none
  | some (.text name) =>
    match ModuleType.ofName? name with
    | some moduleType => .ok (some moduleType)
    | none => .error .moduleTypeUnknown
  | some _ => .error .moduleTypeUnknown

/-- The names of a list, the first of which has the given index. -/
def readNameList (key : String) (index : Nat) : List Value → Except Failure (List String)
  | [] => .ok []
  | .text name :: rest =>
    if name.toList.all isBlank then .error (.nameBlank key index)
    else (readNameList key (index + 1) rest).map (name :: ·)
  | _ :: _ => .error (.nameBlank key index)

/-- The names that are not known. -/
def unknownNames (known? : Option (List String)) (names : List String) : List String :=
  match known? with
  | none => []
  | some known => names.filter fun name => !known.contains name

/-- An option that is a list of known names; it is empty if it is absent. -/
def readNames (known? : Option (List String)) (options : Entries Value) (key : String) :
    Except Failure (List String) :=
  match options.get? key with
  | none => .ok []
  | some (.list items) => do
    let names ← readNameList key 0 items
    let unknown := unknownNames known? names
    if unknown.isEmpty then return names else .error (.namesUnknown key unknown)
  | some _ => .error (.namesNotList key)

/-- The option `targets`, which is a table, a specification, or null. -/
def readTargets (writing : Writing) (options : Entries Value) : Traced TargetSpec :=
  match (options.get? "targets").getD .null with
  | .null => return {}
  | .map entries => TargetSpec.read writing (.map entries)
  | .spec target => return target
  | _ => Traced.fail .targetsOptionNotTable

namespace PresetOptions

/-- The options of a table. -/
def readTable (writing : Writing) (known? : Option (List String)) (options : Entries Value) :
    Traced PresetOptions := do
  let unknown := options.keys.filter fun key => !optionKeys.contains key
  -- Unknown options are reported before any value is looked at.
  if !unknown.isEmpty then Traced.fail (.unknownOptions (sortNames unknown))
  else do
    let targets ← readTargets writing options
    let included ← Traced.of (readNames known? options "include")
    let excluded ← Traced.of (readNames known? options "exclude")
    let useBuiltIns ← Traced.of (readBool options "use_built_ins")
    let moduleType ← Traced.of (readModuleType options)
    let loose ← Traced.of (readBool options "loose")
    let debug ← Traced.of (readBool options "debug")
    return { targets, included, excluded, useBuiltIns, moduleType, loose, debug }

/-- The options of a value: a table, or a value that stands for the empty one. -/
def read (writing : Writing) (known? : Option (List String)) (raw : Value) :
    Traced PresetOptions :=
  if raw.isBlankValue then readTable writing known? []
  else
    match raw with
    | .map options => readTable writing known? options
    | _ => Traced.fail .optionsNotTable

end PresetOptions

end TransformPreset
