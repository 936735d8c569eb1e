import TransformPreset.Registry.Basic
import TransformPreset.Text.Pieces

/-!
# Discovery of units

Where a registry gets its units from: the tables first, then entry points that packages announce,
then bundles that the user asks for by module and member. A later source replaces the units of an
earlier one. What an entry point or a module provides may be called for before it is a unit or a
bundle.
-/

namespace TransformPreset

/-- A thing that an entry point or a module provides. -/
inductive Provided
  /-- A bundle of units. -/
  | bundle (units : List NamedUnit)
  /-- A unit. -/
  | unit (unit : NamedUnit)
  /-- A function that gives another thing when it is called. -/
  | function (result : Provided)
  /-- A function that cannot be called without arguments. -/
  | procedure
  /-- A thing that raises something when it is loaded, called or taken for units. -/
  | raising (raised : Raised)
  /-- Anything else. -/
  | value (value : Value)

/-- The thing itself, or what it gives when it is called. -/
def Provided.called : Provided → Except Failure Provided
  | .function result => .ok result
  | .procedure => .error .callRefused
  | .raising raised => .error (.raised raised)
  | provided => .ok provided

/-- Where units come from besides the tables. -/
structure UnitSources where
  /-- What the announced entry points load to, in order. -/
  entryPoints : List Provided := []
  /-- The modules that can be loaded, each with its members. -/
  modules : Entries (Entries Provided) := []
  /-- The modules that raise something when they are loaded. -/
  raising : Entries Raised := []

/-- Whether there is a module, or something in its place. -/
def UnitSources.hasModule (sources : UnitSources) (name : String) : Bool :=
  sources.modules.has name || sources.raising.has name

/-! ## Modules -/

/-- The names of the packages that a module name leads through, the outermost first and the module
itself last. -/
def modulePath (name : String) : List String :=
  let parts := pieces '.' name.toList
  (List.range parts.length).map fun i => String.ofList (['.'].intercalate (parts.take (i + 1)))

/-- Whether a thing can be the list of the places where the modules of a package are looked for. -/
def Provided.isPlaces : Provided → Bool
  | .value .null | .value (.text _) | .value (.list _) | .value (.map _) => true
  | _ => false

/-- The failure of looking for a module in another one with the given members. A module is a package
if it says where its modules are, and a function of it may be asked for what it lacks. -/
def missingWithin (parent : String) (members : Entries Provided) (name : String) : Failure :=
  match members.get? "__path__" with
  | some places => if places.isPlaces then .moduleMissing name else .callRefused
  | none =>
    if members.has "__getattr__" then .callRefused else .moduleNotPackage name parent

/-- What hinders loading the modules of a path one after the other: the first one that raises
something or is missing, as the outermost one or within the module before it, whose name and members
are given. -/
def pathFault? (sources : UnitSources) (parent? : Option (String × Entries Provided)) :
    List String → Option Failure
  | [] => none
  | name :: inner =>
    match sources.raising.get? name with
    | some raised => some (.raised raised)
    | none =>
      -- A package is there if a module within it is.
      if sources.hasModule name || inner.any sources.hasModule then
        pathFault? sources (some (name, (sources.modules.get? name).getD [])) inner
      else
        match parent? with
        | none => some (.moduleMissing name)
        | some (parent, members) => some (missingWithin parent members name)

/-- The members of a module. -/
def loadModule (sources : UnitSources) (name : String) : Except Failure (Entries Provided) :=
  if name.toList.head? == some '.' then .error (.moduleRelative name)
  else
    match pathFault? sources none (modulePath name) with
    | some failure => .error failure
    | none => .ok ((sources.modules.get? name).getD [])

/-- The module and the member that a text of the form `module:member` names. -/
def parseBundleSpec (spec : String) : Except Failure (String × String) :=
  match partitionAt ':' spec.toList with
  | (moduleName, some member) =>
    if moduleName.isEmpty || member.isEmpty then .error .bundleSpecMalformed
    else .ok (String.ofList moduleName, String.ofList member)
  | (_, none) => .error .bundleSpecMalformed

/-- The members that every module has, whatever it provides: some are data about the module, some
answer when they are called, and some cannot be called without arguments. -/
def ownMembers : Entries Provided :=
  ["__annotations__", "__dict__", "__doc__", "__loader__", "__name__", "__package__",
      "__spec__"].map (·, .value .null) ++
    ["__dir__", "__getstate__", "__hash__", "__init_subclass__", "__repr__", "__sizeof__",
      "__str__", "__subclasshook__"].map (·, .function (.value .null)) ++
    ["__class__", "__delattr__", "__eq__", "__format__", "__ge__", "__getattribute__", "__gt__",
      "__init__", "__le__", "__lt__", "__ne__", "__new__", "__reduce__", "__reduce_ex__",
      "__setattr__"].map (·, .procedure)

/-- A member of a module: one that it provides, or one that every module has. A function that is
asked for any other one would need its name. -/
def memberOf? (members : Entries Provided) (name : String) : Except Failure (Option Provided) :=
  match (members.get? name).or (ownMembers.get? name) with
  | some provided => .ok (some provided)
  | none => if members.has "__getattr__" then .error .callRefused else .ok none

/-- The units of the bundle that a text names. -/
def loadBundle (sources : UnitSources) (spec : String) : Except Failure (List NamedUnit) := do
  let (moduleName, member) ← parseBundleSpec spec
  let members ← loadModule sources moduleName
  match ← memberOf? members member with
  | none => .error (.memberMissing moduleName member)
  | some provided =>
    match ← provided.called with
    | .bundle units => .ok units
    | _ => .error (.notBundle spec)

namespace Registry

/-- Writes the units of entry points up to the first one that loads to none: the registry then, and
the failure. -/
def loadEntryPoints (registry : Registry) : List Provided → Registry × Except Failure Unit
  | [] => (registry, .ok ())
  | provided :: rest =>
    match provided.called with
    | .ok (.unit unit) => loadEntryPoints (registry.replace unit) rest
    | .ok _ => (registry, .error .notUnit)
    | .error failure => (registry, .error failure)

/-- Writes the units of a bundle. -/
def loadModuleBundle (registry : Registry) (sources : UnitSources) (spec : String) :
    Except Failure Registry :=
  (loadBundle sources spec).map registry.replaceAll

/-- Writes the units of several bundles. -/
def loadModuleBundles (registry : Registry) (sources : UnitSources) :
    List String → Except Failure Registry
  | [] => .ok registry
  | spec :: rest => do
    let next ← registry.loadModuleBundle sources spec
    loadModuleBundles next sources rest

/-- The registry after a step that may have stopped halfway, if it did not. -/
def complete (step : Registry × Except Failure Unit) : Except Failure Registry :=
  step.2.map fun _ => step.1

/-- The registry of the units of the tables, the entry points and the bundles, in that order. -/
def discover (tables : CapabilityTables) (sources : UnitSources) (specs : List String) :
    Except Failure Registry := do
  -- A unit of the tables may not come twice; later sources replace it.
  let ofTables ← complete (registerAll {} (builtInUnits tables))
  let announced ← complete (ofTables.loadEntryPoints sources.entryPoints)
  announced.loadModuleBundles sources specs

end Registry

end TransformPreset
