import TransformPreset.Text.Pieces

/-!
# Paths

A path is a root and the names below it. Its text is normal: no name is empty or a single point, and
a path without names is a point or its root. Two points are a name like any other, because what they
lead to depends on the disk.
-/

namespace TransformPreset

/-- A path to a file or a directory. -/
structure Path where
  /-- The root: nothing, one slash, or two. -/
  root : String
  /-- The names below the root. -/
  names : List String
deriving DecidableEq

namespace Path

/-- The root of a text: two slashes at its start are a root of their own, more are one slash. -/
def rootOf (text : List Char) : String :=
  match (text.takeWhile (· == '/')).length with
  | 0 => ""
  | 2 => "//"
  | _ => "/"

/-- Whether a name is kept in a path. -/
def isKept (name : List Char) : Bool :=
  !name.isEmpty && name != ['.']

/-- The path that a text names. -/
def ofText (text : String) : Path where
  root := rootOf text.toList
  names := ((pieces '/' text.toList).filter isKept).map String.ofList

/-- The text of a path. -/
def text (path : Path) : String :=
  if path.root.isEmpty && path.names.isEmpty then "."
  else path.root ++ "/".intercalate path.names

/-- The path of a name in a directory. -/
def child (directory : Path) (name : String) : Path where
  root := directory.root
  names := directory.names ++ [name]

/-- The last name of a path, or nothing. -/
def name (path : Path) : String :=
  path.names.getLast?.getD ""

theorem name_child (directory : Path) (name : String) : (directory.child name).name = name := by
  simp [Path.name, child]

end Path

end TransformPreset
