import TransformPreset.Number.Written
import TransformPreset.Text.Quoted
import TransformPreset.Value.Basic

/-!
# Values in messages

The form in which messages show a value: numbers in full precision, texts quoted, lists in square
brackets and maps in braces. A text that stands alone is shown bare (`Value.shown`).
-/

namespace TransformPreset

/-- Texts in parentheses, with a comma after a single one. -/
def inParentheses : List String → String
  | [s] => "(" ++ quoted s ++ ",)"
  | texts => "(" ++ ", ".intercalate (texts.map quoted) ++ ")"

/-- Entries in braces. -/
def inBraces (entries : List String) : String :=
  "\x7b" ++ ", ".intercalate entries ++ "\x7d"

/-- The form of a constraint. -/
def Constraint.written : Constraint → String
  | .current => "CurrentRuntime()"
  | .version x => "ExplicitVersion(version=" ++ x.written ++ ")"

/-- The form of a target specification. -/
def TargetSpec.written (spec : TargetSpec) : String :=
  let environments := spec.environments.map fun (name, c) => quoted name ++ ": " ++ c.written
  let electron :=
    match spec.electron with
    | none => "None"
    | some raw => "ElectronVersion(raw=" ++ quoted raw ++ ")"
  let browsers :=
    match spec.browsers with
    | none => "None"
    | some queries => "BrowserQuery(queries=" ++ inParentheses queries ++ ")"
  "TargetSpec(environments=" ++ inBraces environments ++ ", electron=" ++ electron ++
    ", browsers=" ++ browsers ++ ")"

namespace Value

mutual

/-- The form of a value. -/
def written : Value → String
  | .null => "None"
  | .bool b => if b then "True" else "False"
  | .int n => writtenInt n
  | .float x => x.written
  | .text s => quoted s
  | .list items => "[" ++ ", ".intercalate (writtenItems items) ++ "]"
  | .map entries => inBraces (writtenEntries entries)
  | .other form => form
  | .spec target => target.written

/-- The forms of the items of a list. -/
def writtenItems : List Value → List String
  | [] => []
  | item :: rest => item.written :: writtenItems rest

/-- The forms of the entries of a map. -/
def writtenEntries : List (String × Value) → List String
  | [] => []
  | (key, value) :: rest => (quoted key ++ ": " ++ value.written) :: writtenEntries rest

end

/-- The form of a value that stands alone: a text is shown as it is. -/
def shown : Value → String
  | .text s => s
  | value => value.written

end Value

end TransformPreset
