import TransformPreset.Capability.Table
import TransformPreset.Names

/-!
# The registry of units

A unit is what a host runs for a transformation: an id and the package that implements it. The
registry holds at most one unit for each id. `register` refuses an id that is taken and `replace`
does not; both write the unit under its own id, so the registry is a map in which the last write
that took effect counts.
-/

namespace TransformPreset

/-- A unit: its id and the package that implements it. -/
structure NamedUnit where
  /-- The id. -/
  id : String
  /-- The package. -/
  package : String
deriving DecidableEq

namespace NamedUnit

/-- The package of a unit that names none. -/
def defaultPackage (id : String) : String :=
  "babel-plugin-" ++ id

/-- The unit of an id and a package; the empty package stands for the default one. -/
def of (id package : String) : NamedUnit :=
  ⟨id, if package.isEmpty then defaultPackage id else package⟩

/-- The unit of an id in its default package. -/
def ofId (id : String) : NamedUnit :=
  of id ""

end NamedUnit

/-- The id of the unit that requires the polyfills. -/
def polyfillUnitId : String := "transform-polyfill-require"

/-- The id of the unit that makes the polyfills include a regenerator. -/
def regeneratorUnitId : String := "transform-regenerator"

/-- The registered units. -/
structure Registry where
  /-- The units by id. -/
  units : Entries NamedUnit := []
deriving DecidableEq

namespace Registry

/-- The unit of an id. -/
def unit? (registry : Registry) (id : String) : Option NamedUnit :=
  registry.units.get? id

/-- The unit of an id, which has to be there. -/
def require (registry : Registry) (id : String) : Except Failure NamedUnit :=
  match registry.unit? id with
  | some unit => .ok unit
  | none => .error (.unitMissing id)

/-- Writes a unit under its id. -/
def replace (registry : Registry) (unit : NamedUnit) : Registry :=
  ⟨registry.units.insert unit.id unit⟩

/-- Writes several units, one after the other. -/
def replaceAll (registry : Registry) (units : List NamedUnit) : Registry :=
  units.foldl replace registry

/-- Writes a unit under an id that is free. -/
def register (registry : Registry) (unit : NamedUnit) : Except Failure Registry :=
  if registry.units.has unit.id then .error (.unitDuplicate unit.id)
  else .ok (registry.replace unit)

/-- Registers units up to the first one that is refused: the registry then, and the failure. -/
def registerAll (registry : Registry) : List NamedUnit → Registry × Except Failure Unit
  | [] => (registry, .ok ())
  | unit :: rest =>
    match registry.register unit with
    | .ok next => registerAll next rest
    | .error failure => (registry, .error failure)

/-- The units by the code points of their ids. -/
def list (registry : Registry) : List NamedUnit :=
  (Entries.sorted registry.units).map Prod.snd

/-- How many units there are. -/
def size (registry : Registry) : Nat :=
  registry.units.length

end Registry

/-- The units that the tables call for: one for each plugin and each module transformation, and the
one for the polyfills. -/
def builtInUnits (tables : CapabilityTables) : List NamedUnit :=
  (distinct (tables.plugins.keys ++ tables.modules.map Prod.snd)).map NamedUnit.ofId ++
    [NamedUnit.ofId polyfillUnitId]

end TransformPreset
