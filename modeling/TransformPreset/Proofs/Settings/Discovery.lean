import TransformPreset.Proofs.Outcome
import TransformPreset.Settings.File
import TransformPreset.Toml.Document

/-!
# Discovery and loading agree

A project file is read twice: discovery asks whether it has a table of options, and loading, which
knows the file by its name, reads them. Whatever the reader of the format answers, the two see the
same file in the same way (`discoverProject_agrees`): a table, no table, or a failure. Of a failure
discovery makes a text that names the file, if it is one of reading a file; any other failure
escapes from both.
-/

namespace TransformPreset

/-! ## Files and projects -/

/-- Whether there is a file at a path, be it one that can be read or not. -/
def HasFile (disk : Disk) (path : Path) : Prop :=
  (∃ contents, disk path = .file contents) ∨ ∃ fault, disk path = .refused (.ok true) fault

/-- Why the system does not tell whether there is a file at a path: the path is too long, or it is
refused. -/
def Untold (disk : Disk) (path : Path) (fault : SystemFault) : Prop :=
  (disk path = .tooLong ∧ fault = .nameTooLong) ∨
    ∃ other, disk path = .refused (.error fault) other

/-- Whether the system tells that there is no file at a path. -/
def LacksFile (disk : Disk) (path : Path) : Prop :=
  ¬HasFile disk path ∧ ∀ fault, ¬Untold disk path fault

/-- The options of a project: its table `tool.envpreset`. -/
def HoldsOptions (project options : Entries Value) : Prop :=
  ∃ tool, project.get? "tool" = some (.map tool) ∧
    Entries.get? tool "envpreset" = some (.map options)

/-- Whether a project has no options: it has no table `tool`, or the table has no `envpreset`. -/
def LacksOptions (project : Entries Value) : Prop :=
  ∀ tool, project.get? "tool" = some (.map tool) → Entries.get? tool "envpreset" = none

variable {reader : TableReader} {disk : Disk} {path : Path} {project options : Entries Value}

/-- Where there is a file, that is what a disk tells. -/
theorem isFileAt_of_hasFile (h : HasFile disk path) : isFileAt disk path = .ok true := by
  unfold isFileAt
  rcases h with ⟨contents, hfile⟩ | ⟨fault, hrefused⟩
  · rw [hfile]
  · rw [hrefused]

/-- Where it does not tell, asking fails. -/
theorem isFileAt_of_untold {fault : SystemFault} (h : Untold disk path fault) :
    isFileAt disk path = .error (.pathRefused fault path.text) := by
  unfold isFileAt
  rcases h with ⟨hlong, rfl⟩ | ⟨other, hrefused⟩
  · rw [hlong]
  · rw [hrefused]

/-- Where there is no file, that is what it tells. -/
theorem isFileAt_of_lacksFile (h : LacksFile disk path) : isFileAt disk path = .ok false := by
  obtain ⟨hfile, htold⟩ := h
  unfold isFileAt
  cases hentry : disk path with
  | file contents => exact absurd (.inl ⟨contents, hentry⟩) hfile
  | tooLong => exact absurd (.inl ⟨hentry, rfl⟩) (htold .nameTooLong)
  | refused isFile fault =>
    rcases isFile with other | _ | _
    · exact absurd (.inr ⟨fault, hentry⟩) (htold other)
    · rfl
    · exact absurd (.inr ⟨fault, hentry⟩) hfile
  | _ => rfl

/-- The options of a project are found exactly where it holds them. -/
theorem projectOptions?_eq_some_iff :
    projectOptions? project = .ok (some options) ↔ HoldsOptions project options := by
  unfold projectOptions? HoldsOptions
  split
  · rename_i tool htool
    simp only [htool, Option.some.injEq, Value.map.injEq, exists_eq_left']
    split
    · simp [*]
    · simp [*]
    · rename_i hother hget
      exact iff_of_false nofun fun h => hother options (Option.some.inj (hget.symm.trans h))
  · rename_i hother
    exact iff_of_false nofun fun ⟨tool, htool, _⟩ => hother tool htool

/-- None are found exactly in a project that has none. -/
theorem projectOptions?_eq_none_iff :
    projectOptions? project = .ok none ↔ LacksOptions project := by
  unfold projectOptions? LacksOptions
  split
  · rename_i tool htool
    simp only [htool, Option.some.injEq, Value.map.injEq, forall_eq']
    split <;> simp [*]
  · rename_i hother
    exact iff_of_true rfl fun tool htool => absurd htool (hother tool)

/-! ## Project files -/

/-- A project file has options exactly if its table holds them. -/
theorem readProject?_eq_some_iff :
    readProject? reader disk path = .ok (some options) ↔
      ∃ project, readTableFile reader disk path = .ok project ∧ HoldsOptions project options :=
  except_bind_ok_iff.trans (exists_congr fun _ =>
    and_congr_right fun _ => projectOptions?_eq_some_iff)

/-- It has none exactly if its table has none. -/
theorem readProject?_eq_none_iff :
    readProject? reader disk path = .ok none ↔
      ∃ project, readTableFile reader disk path = .ok project ∧ LacksOptions project :=
  except_bind_ok_iff.trans (exists_congr fun _ =>
    and_congr_right fun _ => projectOptions?_eq_none_iff)

/-- The table in a project file is what its contents are read as; a file that cannot be opened has
none. -/
structure ReadsProject (reader : TableReader) (disk : Disk) (path : Path) : Prop where
  /-- Contents are read as the reader reads them. -/
  contents : ∀ contents, disk path = .file contents →
    readTableFile reader disk path = reader contents
  /-- The system does not let other files be read. -/
  refused : ∀ fault, disk path = .refused (.ok true) fault →
    readTableFile reader disk path = .error (.pathRefused fault path.text)

/-- How discovering a project file and loading its options go together. -/
structure ProjectAgrees (reader : TableReader) (disk : Disk) (path : Path)
    (discovered : Except Failure (Option Path)) (loaded : Except Failure (Entries Value)) :
    Prop where
  /-- What is read is what is in the file. -/
  reads : ReadsProject reader disk path
  /-- The file is found exactly if its options can be loaded. -/
  found : discovered = .ok (some path) ↔ ∃ options, loaded = .ok options
  /-- They are the table `tool.envpreset`, as it stands there. -/
  options : ∀ options, loaded = .ok options ↔
    ∃ project, readTableFile reader disk path = .ok project ∧ HoldsOptions project options
  /-- Nothing is found exactly if there is no such table. -/
  absent : discovered = .ok none ↔
    ∃ project, readTableFile reader disk path = .ok project ∧ LacksOptions project
  /-- Then loading says so. -/
  absent_loaded : (∃ project, readTableFile reader disk path = .ok project ∧
    LacksOptions project) → loaded = .error (.projectTableMissing path.text)
  /-- A failure of reading is worded behind the path exactly if loading fails with it, and not
  because there is no such table. -/
  refused : ∀ cause : Failure, cause.kind.isOfReading = true →
    (discovered = .error (.projectUnreadable path.text cause) ↔ loaded = .error cause ∧
      ¬∃ project, readTableFile reader disk path = .ok project ∧ LacksOptions project)
  /-- The words are those of the failure to load. -/
  message : ∀ cause : Failure, (Failure.projectUnreadable path.text cause).message =
    "failed to read " ++ path.text ++ ": " ++ cause.message
  /-- Any other failure escapes from both. -/
  escapes : ∀ cause : Failure, cause.kind.isOfReading = false →
    (discovered = .error cause ↔ loaded = .error cause)

/-- A failure of reading a project is worded with its path. -/
theorem Failure.inProject_of_reading {cause : Failure} (h : cause.kind.isOfReading = true)
    (path : Path) : cause.inProject path = .projectUnreadable path.text cause :=
  if_pos h

/-- Any other one is left as it is. -/
theorem Failure.inProject_of_other {cause : Failure} (h : cause.kind.isOfReading = false)
    (path : Path) : cause.inProject path = cause :=
  if_neg (h ▸ Bool.false_ne_true)

/-- A worded failure is that of its cause. -/
theorem Failure.inProject_eq_projectUnreadable_iff {failure cause : Failure}
    (h : cause.kind.isOfReading = true) :
    failure.inProject path = .projectUnreadable path.text cause ↔ failure = cause := by
  cases hkind : failure.kind.isOfReading with
  | true => simp [inProject_of_reading hkind]
  | false =>
    rw [inProject_of_other hkind]
    -- A failure that is left as it is has another kind than one with a path.
    refine iff_of_false (fun heq => ?_) fun heq => ?_
    · rw [heq] at hkind
      cases hkind
    · rw [heq, h] at hkind
      cases hkind

/-- A failure that is left as it is comes from no other. -/
theorem Failure.inProject_eq_other_iff {failure cause : Failure}
    (h : cause.kind.isOfReading = false) :
    failure.inProject path = cause ↔ failure = cause := by
  cases hkind : failure.kind.isOfReading with
  | true =>
    rw [inProject_of_reading hkind]
    refine iff_of_false (fun heq => ?_) fun heq => ?_
    · rw [← heq] at h
      cases h
    · rw [← heq, hkind] at h
      cases h
  | false => rw [inProject_of_other hkind]

/-- Discovery of a project file, by what reading it for its options gives. -/
theorem discoverProject_of_hasFile (h : HasFile disk path) :
    discoverProject reader disk path =
      match readProject? reader disk path with
      | .ok (some _) => .ok (some path)
      | .ok none => .ok none
      | .error cause => .error (cause.inProject path) := by
  rw [discoverProject, isFileAt_of_hasFile h]
  rfl

/-- Loading a project file, by the same. -/
theorem loadSettings_of_project (h : path.name = projectName) :
    loadSettings reader disk path =
      match readProject? reader disk path with
      | .ok (some options) => .ok options
      | .ok none => .error (.projectTableMissing path.text)
      | .error cause => .error cause := by
  rw [loadSettings, if_pos h]
  rcases readProject? reader disk path with _ | _ | _ <;> rfl

/-- Discovery and loading agree about a project file. -/
theorem discoverProject_agrees (hname : path.name = projectName)
    (hfile : HasFile disk path) :
    ProjectAgrees reader disk path (discoverProject reader disk path)
      (loadSettings reader disk path) where
  reads :=
    { contents := fun contents hcontents => by rw [readTableFile, hcontents]
      refused := fun fault hrefused => by rw [readTableFile, hrefused] }
  found := by
    rw [discoverProject_of_hasFile hfile, loadSettings_of_project hname]
    rcases readProject? reader disk path with _ | _ | _ <;> simp
  options options := by
    rw [loadSettings_of_project hname, ← readProject?_eq_some_iff]
    rcases readProject? reader disk path with _ | _ | _ <;> simp
  absent := by
    rw [discoverProject_of_hasFile hfile, ← readProject?_eq_none_iff]
    rcases readProject? reader disk path with _ | _ | _ <;> simp
  absent_loaded h := by
    rw [loadSettings_of_project hname, (readProject?_eq_none_iff).2 h]
  refused cause hcause := by
    rw [discoverProject_of_hasFile hfile, loadSettings_of_project hname,
      ← readProject?_eq_none_iff]
    rcases readProject? reader disk path with failure | _ | _
    · simp [Failure.inProject_eq_projectUnreadable_iff hcause]
    · simp
    · simp
  message cause := rfl
  escapes cause hcause := by
    rw [discoverProject_of_hasFile hfile, loadSettings_of_project hname]
    rcases readProject? reader disk path with failure | _ | _
    · simp [Failure.inProject_eq_other_iff hcause]
    · -- That there is no table is a failure of reading.
      refine iff_of_false nofun fun h => ?_
      obtain rfl := Except.error.inj h
      cases hcause
    · simp

/-! ## Discovery -/

/-- What discovery answers for a directory, and for a path that is given. -/
structure DiscoversAsLoaded (reader : TableReader) (disk : Disk) (directory : Path) : Prop where
  /-- A file that is all options is taken, whatever is in it and in the project file. -/
  own : HasFile disk (directory.child settingsName) →
    discoverSettings reader disk directory none = .ok (some (directory.child settingsName))
  /-- Without one the project file is taken as loading takes it. -/
  project : LacksFile disk (directory.child settingsName) →
    HasFile disk (directory.child projectName) →
      ProjectAgrees reader disk (directory.child projectName)
        (discoverSettings reader disk directory none)
        (loadSettings reader disk (directory.child projectName))
  /-- Without either there is nothing to find. -/
  neither : LacksFile disk (directory.child settingsName) →
    LacksFile disk (directory.child projectName) →
      discoverSettings reader disk directory none = .ok none
  /-- If the system does not tell whether there is such a file, that is the failure. -/
  own_untold : ∀ fault, Untold disk (directory.child settingsName) fault →
    discoverSettings reader disk directory none =
      .error (.pathRefused fault (directory.child settingsName).text)
  /-- So it is for the project file, which is only asked about without the other file. -/
  project_untold : LacksFile disk (directory.child settingsName) →
    ∀ fault, Untold disk (directory.child projectName) fault →
      discoverSettings reader disk directory none =
        .error (.pathRefused fault (directory.child projectName).text)
  /-- A given path is the answer exactly if there is a file. -/
  given : ∀ path, discoverSettings reader disk directory (some path) = .ok (some path) ↔
    HasFile disk path
  /-- If there is none, that is the failure. -/
  given_missing : ∀ path, LacksFile disk path →
    discoverSettings reader disk directory (some path) = .error (.configMissing path.text)
  /-- If the system does not tell, that is. -/
  given_untold : ∀ path fault, Untold disk path fault →
    discoverSettings reader disk directory (some path) = .error (.pathRefused fault path.text)
  /-- Nothing else matters: no other file, no other directory, no other way of reading. -/
  given_alone : ∀ path otherReader otherDisk otherDirectory, otherDisk path = disk path →
    discoverSettings otherReader otherDisk otherDirectory (some path) =
      discoverSettings reader disk directory (some path)

/-- Without a file that is all options the project file is looked for. -/
theorem discoverSettings_of_lacksFile {directory : Path}
    (h : LacksFile disk (directory.child settingsName)) :
    discoverSettings reader disk directory none =
      discoverProject reader disk (directory.child projectName) := by
  rw [discoverSettings, isFileAt_of_lacksFile h]
  rfl

/-- Discovery and loading agree, whatever is on the disk and however files are read. -/
theorem discoverSettings_agrees (reader : TableReader) (disk : Disk) (directory : Path) :
    DiscoversAsLoaded reader disk directory where
  own h := by
    rw [discoverSettings, isFileAt_of_hasFile h]
    rfl
  project hown hfile := by
    rw [discoverSettings_of_lacksFile hown]
    exact discoverProject_agrees (Path.name_child _ _) hfile
  neither hown hproject := by
    rw [discoverSettings_of_lacksFile hown, discoverProject, isFileAt_of_lacksFile hproject]
    rfl
  own_untold fault h := by
    rw [discoverSettings, isFileAt_of_untold h]
    rfl
  project_untold hown fault h := by
    rw [discoverSettings_of_lacksFile hown, discoverProject, isFileAt_of_untold h]
    rfl
  given path := by
    by_cases hfile : HasFile disk path
    · rw [discoverSettings, isFileAt_of_hasFile hfile]
      exact iff_of_true rfl hfile
    · refine iff_of_false (fun h => ?_) hfile
      by_cases htold : ∃ fault, Untold disk path fault
      · obtain ⟨fault, huntold⟩ := htold
        rw [discoverSettings, isFileAt_of_untold huntold] at h
        cases h
      · rw [discoverSettings, isFileAt_of_lacksFile ⟨hfile, not_exists.1 htold⟩] at h
        cases h
  given_missing path h := by
    rw [discoverSettings, isFileAt_of_lacksFile h]
    rfl
  given_untold path fault h := by
    rw [discoverSettings, isFileAt_of_untold h]
    rfl
  given_alone path otherReader otherDisk otherDirectory h := by
    rw [discoverSettings, discoverSettings, isFileAt, isFileAt, h]

/-- The directory in which paths start. -/
def startDirectory : Path := ⟨"", []⟩

/-- A disk with a project file in that directory, and nothing else. -/
def projectDisk (text : String) : Disk := fun path =>
  if path = startDirectory.child projectName then .file text.toUTF8 else .missing

/-- Where nothing is, there is no file. -/
theorem lacksFile_of_missing (h : disk path = .missing) : LacksFile disk path := by
  constructor
  · rintro (⟨contents, hfile⟩ | ⟨fault, hrefused⟩)
    · cases h.symm.trans hfile
    · cases h.symm.trans hrefused
  · rintro fault (⟨hlong, -⟩ | ⟨other, hrefused⟩)
    · cases h.symm.trans hlong
    · cases h.symm.trans hrefused

/-- On such a disk there is no file that is all options. -/
theorem lacksFile_projectDisk (text : String) :
    LacksFile (projectDisk text) (startDirectory.child settingsName) :=
  lacksFile_of_missing (if_neg (by decide))

/-- The project file is there. -/
theorem projectDisk_project (text : String) :
    projectDisk text (startDirectory.child projectName) = .file text.toUTF8 :=
  if_pos rfl

/-- A project file with options is found, and they are loaded. -/
theorem discoverSettings_projectDisk :
    LacksFile (projectDisk "tool.envpreset.loose = 1") (startDirectory.child settingsName) ∧
      DiscoversAsLoaded Toml.read (projectDisk "tool.envpreset.loose = 1") startDirectory ∧
      (loadSettings Toml.read (projectDisk "tool.envpreset.loose = 1")
        (startDirectory.child projectName)).toOption.isSome = true :=
  ⟨lacksFile_projectDisk _, discoverSettings_agrees _ _ _, by decide +kernel⟩

/-- The characters of a document in which lists are nested more deeply than any that can be read. -/
def deepText : List Char :=
  'a' :: '=' :: List.replicate 493 '['

/-- That document. -/
def deepDocument : String :=
  String.ofList deepText

/-- The text of a document is what its bytes in UTF-8 are read as. -/
theorem read_toUTF8 (text : String) : Toml.read text.toUTF8 = Toml.readDocument text.toList := by
  have hvalid : text.toUTF8.IsValidUTF8 := text.isValidUTF8
  rw [Toml.read, String.fromUTF8?, dif_pos hvalid]
  rfl

/-- That it is nested too deeply is all that can be said of it. -/
theorem read_deepDocument : Toml.read deepDocument.toUTF8 = .error .nestedTooDeeply := by
  -- Its characters are read, so that no bytes are taken apart one by one.
  have hdeep : (match Toml.readDocument deepText with
      | .error .nestedTooDeeply => true
      | _ => false) = true := by
    decide +kernel
  rw [read_toUTF8, deepDocument, String.toList_ofList]
  generalize Toml.readDocument deepText = result at hdeep ⊢
  split at hdeep
  · rfl
  · cases hdeep

/-- The fault of a place that one may not look into. -/
def permissionDenied : SystemFault :=
  ⟨13, "Permission denied"⟩

/-- Not every failure to load is worded: of a document that is nested too deeply discovery fails as
loading does. Nor is a file always missing where there is none: of a path that is too long, or that
leads through a place that one may not look into, the system does not tell. -/
theorem discoverSettings_deepDocument :
    LacksFile (projectDisk deepDocument) (startDirectory.child settingsName) ∧
      loadSettings Toml.read (projectDisk deepDocument) (startDirectory.child projectName) =
        .error .nestedTooDeeply ∧
      discoverSettings Toml.read (projectDisk deepDocument) startDirectory none =
        .error .nestedTooDeeply ∧
      discoverSettings Toml.read (fun _ => .tooLong) startDirectory none =
        .error (.pathRefused .nameTooLong (startDirectory.child settingsName).text) ∧
      discoverSettings Toml.read (fun _ => .refused (.error permissionDenied) permissionDenied)
        startDirectory none =
        .error (.pathRefused permissionDenied (startDirectory.child settingsName).text) := by
  have hread : readProject? Toml.read (projectDisk deepDocument)
      (startDirectory.child projectName) = .error .nestedTooDeeply := by
    rw [readProject?, readTableFile, projectDisk_project]
    show Toml.read deepDocument.toUTF8 >>= projectOptions? = _
    rw [read_deepDocument]
    rfl
  refine ⟨lacksFile_projectDisk _, ?_, ?_, rfl, rfl⟩
  · rw [loadSettings_of_project (Path.name_child _ _), hread]
  · rw [discoverSettings_of_lacksFile (lacksFile_projectDisk _),
      discoverProject_of_hasFile (.inl ⟨_, projectDisk_project _⟩), hread]
    rfl

end TransformPreset
