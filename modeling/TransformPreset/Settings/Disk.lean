import TransformPreset.Failure
import TransformPreset.Settings.Path

/-!
# Disks

A disk tells what stands at each path, and nothing else is asked of it. `FileTree` is a disk in
memory: a path is walked name by name from the directory it starts in, each name on the way must be
a directory, and two points lead back to the parent. A name that is too long is only noticed once it
is looked for.
-/

namespace TransformPreset

/-- What stands at a path. -/
inductive DiskEntry
  /-- A file with its contents. -/
  | file (contents : ByteArray)
  /-- A directory. -/
  | directory
  /-- Nothing. -/
  | missing
  /-- Nothing, because the path leads through a file. -/
  | throughFile
  /-- Nothing, because the path or a name in it is longer than any on the disk. -/
  | tooLong
  /-- Nothing, because the path holds a character that no path can. -/
  | unusable
  /-- Something that the system does not let be read. It may refuse to tell whether it is a file,
  too. -/
  | refused (isFile : Except SystemFault Bool) (fault : SystemFault)

/-- What stands at each path. -/
abbrev Disk := Path → DiskEntry

/-- The most bytes of a name on a disk. -/
def maxNameSize : Nat := 255

/-- The most bytes of a path. -/
def maxPathSize : Nat := 4095

/-- The character that ends a path, and so cannot be in one. -/
def nul : Char := Char.ofNat 0

/-- A tree of files and directories. A directory is there if it is listed or something below it
is. -/
structure FileTree where
  /-- The listed places, as names from the root: a file with its contents, or a directory. -/
  places : List (List String × Option ByteArray)

namespace FileTree

/-- What stands at a place. The last listing of it counts. -/
def entryAt (tree : FileTree) (place : List String) : DiskEntry :=
  match tree.places.reverse.find? fun listed => listed.1 == place with
  | some (_, some contents) => .file contents
  | some (_, none) => .directory
  | none =>
    if place.isEmpty || tree.places.any fun listed => place.isPrefixOf listed.1 then .directory
    else .missing

/-- What stands where names lead to from a place. -/
def walk (tree : FileTree) (place : List String) : List String → DiskEntry
  | [] => tree.entryAt place
  | name :: rest =>
    match tree.entryAt place with
    | .directory =>
      if maxNameSize < name.utf8ByteSize then .tooLong
      -- The parent is found on the disk, after the directory itself.
      else if name = ".." then tree.walk place.dropLast rest
      else tree.walk (place ++ [name]) rest
    | .file _ => .throughFile
    | other => other

/-- The disk of a tree, for paths that start in a directory. -/
def disk (tree : FileTree) (start : List String) : Disk := fun path =>
  if path.text.contains nul then .unusable
  else if maxPathSize < path.text.utf8ByteSize then .tooLong
  else tree.walk (if path.root.isEmpty then start else []) path.names

end FileTree

end TransformPreset
