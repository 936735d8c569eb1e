import TransformPreset.Text.Digit

/-!
# Overrides

A host may include or exclude capabilities by name. A name alone tells whether it is a built-in:
names of built-ins start with `es` and digits, or with `web`, and a point. `Overrides` keeps a list
of names beside its two parts.
-/

namespace TransformPreset

/-- The text after the first letters of a name, if it starts with them. -/
def afterLetters? (letters name : List Char) : Option (List Char) :=
  if letters.isPrefixOf name then some (name.drop letters.length) else none

/-- Whether a name starts with `es`, digits and a point. -/
def hasEditionStart (name : List Char) : Bool :=
  match afterLetters? "es".toList name with
  | none => false
  | some rest => !(rest.takeWhile isDigit).isEmpty && (rest.dropWhile isDigit).head? == some '.'

/-- Whether a name is that of a built-in. -/
def isBuiltInName (name : String) : Bool :=
  hasEditionStart name.toList || (afterLetters? "web.".toList name.toList).isSome

/-- Names to include or to exclude. -/
structure Overrides where
  /-- All names. -/
  all : List String
  /-- The names of transformations. -/
  plugins : List String
  /-- The names of built-ins. -/
  builtIns : List String
deriving DecidableEq

/-- The overrides that names make, each part in the order of the names. -/
def Overrides.ofNames (names : List String) : Overrides where
  all := names
  plugins := names.filter fun name => !isBuiltInName name
  builtIns := names.filter isBuiltInName

end TransformPreset
