import TransformPreset.Failure
import TransformPreset.Text.Digit

/-!
# Electron versions

An electron version stands for the chrome version that it is built on. Only its major and minor
number count: the longest start of its text of the form digits, point, digits is looked up in a
table, and the rest is ignored.
-/

namespace TransformPreset

/-- The text `1` is read as the version `1.0`. -/
def electronText (version : String) : String :=
  if version = "1" then "1.0" else version

/-- The longest start of a text of the form digits, point, digits. -/
def majorMinor? (text : List Char) : Option (List Char) :=
  let major := text.takeWhile isDigit
  match text.dropWhile isDigit with
  | '.' :: rest =>
    let minor := rest.takeWhile isDigit
    if major.isEmpty || minor.isEmpty then none else some (major ++ '.' :: minor)
  | _ => none

/-- The chrome version that a table gives an electron version. -/
def chromeOfElectron (table : Entries Value) (version : String) : Except Failure Value :=
  match majorMinor? (electronText version).toList with
  | none => .error .electronNotVersion
  | some text =>
    let majorMinor := String.ofList text
    match table.get? majorMinor with
    -- A version without a chrome version is as good as absent.
    | none | some .null => .error (.electronUnknown majorMinor)
    | some chrome => .ok chrome

end TransformPreset
