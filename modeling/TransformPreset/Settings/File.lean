import TransformPreset.Failure
import TransformPreset.Settings.Disk

/-!
# Settings files

Options stand in a settings file: either in one of their own, which is all options, or in a project
file, where they are the table `tool.envpreset`. `discoverSettings` looks for a file of its own
first and for a project file with such a table next, unless a path is given; `loadSettings` reads
the options of a file. Both take the reader of the format as a parameter.
-/

namespace TransformPreset

/-- A reader of the contents of a file as a table. -/
abbrev TableReader := ByteArray → Except Failure (Entries Value)

/-- The name of a file that is all options. -/
def settingsName : String := "envpreset.toml"

/-- The name of a project file. -/
def projectName : String := "pyproject.toml"

/-- The table in a file. -/
def readTableFile (reader : TableReader) (disk : Disk) (path : Path) :
    Except Failure (Entries Value) :=
  match disk path with
  | .file contents => reader contents
  | .directory => .error (.pathRefused .isDirectory path.text)
  | .missing => .error (.pathRefused .missing path.text)
  | .throughFile => .error (.pathRefused .throughFile path.text)
  | .tooLong => .error (.pathRefused .nameTooLong path.text)
  | .unusable => .error .pathUnusable
  | .refused _ fault => .error (.pathRefused fault path.text)

/-- The table of options in a project, if there is one. -/
def projectOptions? (project : Entries Value) : Except Failure (Option (Entries Value)) :=
  match project.get? "tool" with
  | some (.map tool) =>
    match Entries.get? tool "envpreset" with
    | none => .ok none
    | some (.map options) => .ok (some options)
    | some _ => .error .projectTableNotTable
  | _ => .ok none

/-- The table of options in the project file at a path, if there is one. -/
def readProject? (reader : TableReader) (disk : Disk) (path : Path) :
    Except Failure (Option (Entries Value)) := do
  projectOptions? (← readTableFile reader disk path)

/-- The options in the file at a path. -/
def loadSettings (reader : TableReader) (disk : Disk) (path : Path) :
    Except Failure (Entries Value) :=
  if path.name = projectName then do
    match ← readProject? reader disk path with
    | some options => return options
    | none => .error (.projectTableMissing path.text)
  else readTableFile reader disk path

/-- Whether there is a file at a path. A path that is too long cannot even be asked about, and the
system may refuse to tell of others. -/
def isFileAt (disk : Disk) (path : Path) : Except Failure Bool :=
  match disk path with
  | .file _ => .ok true
  | .directory | .missing | .throughFile | .unusable => .ok false
  | .tooLong => .error (.pathRefused .nameTooLong path.text)
  | .refused (.ok isFile) _ => .ok isFile
  | .refused (.error fault) _ => .error (.pathRefused fault path.text)

/-- Whether a failure of the kind is one of reading a file: the system refuses it, it is not in its
format, or a value in it is wrong. -/
def Failure.Kind.isOfReading (kind : Failure.Kind) : Bool :=
  kind.isOfSystem || kind.isOfValue

/-- The failure to discover a project file that could not be read for its options: it names the
file, unless the cause is none of reading a file. -/
def Failure.inProject (path : Path) (cause : Failure) : Failure :=
  if cause.kind.isOfReading then .projectUnreadable path.text cause else cause

/-- The path of the project file in a directory, if it is there and has a table of options. -/
def discoverProject (reader : TableReader) (disk : Disk) (path : Path) :
    Except Failure (Option Path) := do
  if ← isFileAt disk path then
    match readProject? reader disk path with
    | .ok (some _) => return some path
    | .ok none => return none
    | .error cause => .error (cause.inProject path)
  else return none

/-- The paths at which a settings file may stand. -/
def settingsCandidates (directory : Path) : (given? : Option Path) → List Path
  | some path => [path]
  | none => [directory.child settingsName, directory.child projectName]

/-- The path of the settings file: the given one, or one that is found in a directory. -/
def discoverSettings (reader : TableReader) (disk : Disk) (directory : Path) :
    (given? : Option Path) → Except Failure (Option Path)
  | some path => do
    if ← isFileAt disk path then return some path else .error (.configMissing path.text)
  | none => do
    let own := directory.child settingsName
    -- A file of its own is taken unread, so what is in it cannot hide it.
    if ← isFileAt disk own then return some own
    else discoverProject reader disk (directory.child projectName)

end TransformPreset
