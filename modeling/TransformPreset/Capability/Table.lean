import TransformPreset.Number.Literal
import TransformPreset.Target.Reading

/-!
# Capability tables

A capability is a language feature or a built-in. Its entry in a table gives, for each environment
that has it, the least version that does. `CapabilityTables` gathers what a preset is resolved
against: the two tables, the versions of electron, the transformation of each module type, and the
built-ins that are always included.
-/

namespace TransformPreset

/-- The least version of each environment that implements a capability. -/
abbrev Capability := Entries Number

/-- The capabilities of one kind, by name. -/
abbrev CapabilityTable := Entries Capability

/-- All tables that a preset is resolved against. -/
structure CapabilityTables where
  /-- The capabilities that a transformation stands in for. -/
  plugins : CapabilityTable
  /-- The capabilities that a polyfill stands in for. -/
  builtIns : CapabilityTable
  /-- The chrome version of each electron version. -/
  electron : Entries Value
  /-- The transformation of each module type. -/
  modules : Entries String
  /-- The polyfills that are always included. -/
  defaultInclude : List String

/-- The names that may be included or excluded. -/
def CapabilityTables.knownNames (tables : CapabilityTables) : List String :=
  tables.plugins.keys ++ tables.builtIns.keys ++ tables.defaultInclude

/-- The binary64 number that a value of a table stands for: a number, a truth value as zero or one,
or the text of a number. -/
def Value.toFloat : Value → Except Failure Binary64
  | .float x => .ok x
  | .int n => (Number.int n).toFloat
  | .bool b => (Number.int (if b then 1 else 0)).toFloat
  | .text s =>
    match readFloat? s.toList with
    | some x => .ok x
    | none => .error (.floatUnreadable s)
  | _ => .error .noFloat

namespace Capability

/-- The entries of a capability with values as versions. -/
def values (capability : Capability) : Entries Value :=
  capability.map fun (environment, version) => (environment, Value.ofNumber version)

/-- Reads the versions of a capability, each as a binary64 number. -/
def readVersions : Entries Value → Except Failure Capability
  | [] => .ok []
  | (environment, value) :: rest => do
    let version ← value.toFloat
    let versions ← readVersions rest
    return (environment, .float version) :: versions

/-- Reads the entry of a capability in the named table. -/
def read (table name : String) : Value → Except Failure Capability
  | .map entries => readVersions entries
  | _ => .error (.capabilityNotObject name table)

end Capability

namespace CapabilityTable

/-- The entries of a table with values as versions. -/
def values (table : CapabilityTable) : Entries (Entries Value) :=
  table.map fun (name, capability) => (name, capability.values)

/-- Reads the capabilities of the named table. -/
def readCapabilities (table : String) : Entries Value → Except Failure CapabilityTable
  | [] => .ok []
  | (name, value) :: rest => do
    let capability ← Capability.read table name value
    let capabilities ← readCapabilities table rest
    return (name, capability) :: capabilities

/-- Reads a table with the given name. -/
def read (table : String) : Value → Except Failure CapabilityTable
  | .map entries => readCapabilities table entries
  | _ => .error (.tableNotObject table)

end CapabilityTable

end TransformPreset
