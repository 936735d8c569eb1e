import TransformPreset.Trace
import TransformPreset.Value.Writable

/-!
# Reading target specifications

A table of targets names environments with their versions, and two shorthands: `browsers`, a query
or a list of queries, and `electron`, a version. `TargetSpec.read` validates it entry by entry, and
the first entry that is wrong decides the failure. A `browsers` entry of another shape is ignored,
with a warning.
-/

namespace TransformPreset

/-- The key of the browser queries. -/
def browsersKey : String := "browsers"

/-- The key of the electron version, which is no environment itself. -/
def electronKey : String := "electron"

/-- The environment whose running version can be asked for. -/
def nodeKey : String := "node"

/-- The version that stands for the running one. -/
def currentMarker : String := "current"

/-- Whether a version of the runtime stands for the running one: true, or the marker. -/
def asksCurrent : Value → Bool
  | .bool b => b
  | .text s => s == currentMarker
  | _ => false

/-- The binary64 number that an integer was rounded to, if it is in range. -/
def inRange : Option Binary64 → Except Failure Binary64
  | some x => .ok x
  | none => .error .integerTooLarge

/-- The binary64 number of a number. An integer may be out of range. -/
def Number.toFloat : Number → Except Failure Binary64
  | .float x => .ok x
  | .int n => inRange (Binary64.ofInt? n)

/-- Warns that the browser queries of an entry are none, if warnings are written at all. -/
def warnBrowsers (writing : Writing) (value : Value) : Traced Unit :=
  if writing.warns then
    match value.obstacle? writing.levels with
    | none =>
      Traced.log .warning .normalize
        ("Ignoring `browsers` target of unsupported shape: " ++ value.written)
    -- A log entry that cannot be written is lost, but not for want of depth.
    | some .nestedTooDeeply => Traced.fail .nestedTooDeeply
    | some _ => return ()
  else return ()

/-- The browser queries of an entry; none, and a warning, if it has another shape. -/
def readBrowsers (writing : Writing) (value : Value) : Traced (Option (List String)) :=
  match value.text?, value.texts? with
  | some query, _ => return some [query]
  | none, some queries => return some queries
  | none, none => do
    warnBrowsers writing value
    return none

/-- The text of an electron version; null and false stand for none. -/
def readElectron (writing : Writing) : Value → Except Failure (Option String)
  | .null | .bool false => .ok none
  | .text s => .ok (some s)
  | .int n => if isTooLong n then .error .integerTooLong else .ok (some (Value.int n).shown)
  | .float x => .ok (some (Value.float x).shown)
  | value => .error (value.showing writing.levels (.electronNotText value))

/-- The constraint on an environment. -/
def readConstraint (writing : Writing) (environment : String) (value : Value) :
    Except Failure Constraint :=
  if environment = nodeKey ∧ asksCurrent value then .ok .current
  else
    match value.number? with
    | none => .error (value.showing writing.levels (.versionNotNumber environment value))
    | some n => n.toFloat.map .version

namespace TargetSpec

/-- The specification with one more entry of a table of targets. -/
def readEntry (writing : Writing) (spec : TargetSpec) (key : String) (value : Value) :
    Traced TargetSpec :=
  if key = browsersKey then
    return { spec with browsers := ← readBrowsers writing value }
  else if key = electronKey then
    return { spec with electron := ← Traced.of (readElectron writing value) }
  else
    return { spec with
      environments :=
        spec.environments.insert key (← Traced.of (readConstraint writing key value)) }

/-- The specification with all entries of a table of targets. -/
def readEntries (writing : Writing) (spec : TargetSpec) : Entries Value → Traced TargetSpec
  | [] => return spec
  | (key, value) :: rest => do
    let next ← spec.readEntry writing key value
    readEntries writing next rest

/-- The specification of a value: nothing, a specification, or a table of targets. -/
def read (writing : Writing) : Value → Traced TargetSpec
  | .null => return {}
  | .spec target => return target
  | .map entries => readEntries writing {} entries
  | _ => Traced.fail .targetsNotTable

end TargetSpec

end TransformPreset
