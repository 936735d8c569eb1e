import TransformPreset.Proofs.Command.Resolving
import TransformPreset.Proofs.Preset.Checks
import TransformPreset.Proofs.Toml.Refusal

/-!
# Options that a command cannot read

Most of what can be wrong with options is reported. Two things are not: a text or a value that is
nested too deeply, and a version that is an integer out of range. The lemmas follow the way of the
options from the file and the arguments (`SettingsPlace.gather_failsWith`) through their validation
(`PresetOptions.read_failsWith_reportedOr`) to the targets that they resolve to
(`Host.resolveTargets_failsWith`), and say of each step that its failure is reported or comes from
one of the two.
-/

namespace TransformPreset

/-- Whether failures of a kind are reported by every command that shows targets or a preset. -/
def Failure.Kind.isReported (kind : Failure.Kind) : Bool :=
  kind.isOfPreset || kind.isOfValue || kind.isOfSystem

/-- Whether a failure is reported, or has a cause not to be. -/
def ReportedOr (cause : Failure → Prop) (failure : Failure) : Prop :=
  failure.kind.isReported = true ∨ cause failure

/-- Why the value of a target fails without being reported, in what can be written. -/
inductive Value.Escapes (writing : Writing) (value : Value) : Failure → Prop
  /-- It is an integer out of range. -/
  | range {n : Int} (hvalue : value = .int n) (hrange : Binary64.ofInt? n = none) :
    Escapes writing value .integerTooLarge
  /-- It is nested too deeply to be shown in a message. -/
  | depth (hdepth : value.obstacle? writing.levels = some .nestedTooDeeply) :
    Escapes writing value .nestedTooDeeply

/-- Whether a value among targets fails without being reported. -/
def TargetsEscape (writing : Writing) (targets : Entries Value) (failure : Failure) : Prop :=
  ∃ entry ∈ targets, Value.Escapes writing entry.2 failure

/-- Whether a target argument gives a value that is nested too deeply. -/
def IsDeepArgument (argument : String) : Prop :=
  ∃ environment text, splitTarget argument = .ok (environment, text) ∧
    Json.read text = .error .tooDeep

/-- Whether there is a file at a path that cannot be read for its depth. -/
def SettingsPlace.DeepAt (place : SettingsPlace) (path : Path) (failure : Failure) : Prop :=
  failure.kind = .depth ∧
    ∃ contents, place.disk path = .file contents ∧ place.reader contents = .error failure

/-- Why options cannot be gathered, and no report is made of it. -/
inductive SettingsPlace.Escapes (place : SettingsPlace) (arguments : SettingsArguments) :
    Failure → Prop
  /-- A settings file is nested too deeply. -/
  | file {path : Path} {failure : Failure}
    (hpath : path ∈ settingsCandidates place.directory arguments.path?)
    (hdeep : place.DeepAt path failure) : Escapes place arguments failure
  /-- A target argument is. -/
  | argument {argument : String} (hargument : argument ∈ arguments.targets)
    (hdeep : IsDeepArgument argument) : Escapes place arguments .nestedTooDeeply

/-- A reader of settings files that answers with data, and refuses in the ways in which TOML is
refused. -/
structure ReadsLikeToml (reader : TableReader) : Prop where
  /-- It answers with data. -/
  data : ReadsData reader
  /-- It refuses as a reader of TOML does. -/
  refuses : ∀ contents, FailsWith (Failure.OfKind Toml.refusals) (reader contents)

/-- The reader of TOML is such a reader. -/
theorem Toml.readsLikeToml : ReadsLikeToml Toml.read :=
  ⟨Toml.readsData, Toml.read_failsWith⟩

variable {α : Type} {cause : Failure → Prop}

/-! ## Reported failures -/

/-- A failure of one of some kinds that are all reported is of a kind that is reported. -/
theorem Failure.OfKind.isReported {kinds : List Failure.Kind} {failure : Failure}
    (h : failure.OfKind kinds) (hkinds : ∀ kind ∈ kinds, kind.isReported = true) :
    failure.kind.isReported = true :=
  hkinds _ h

/-- A failure of a kind that is reported is reported. -/
theorem failsWith_reported {failure : Failure} (h : failure.kind.isReported = true) :
    FailsWith (ReportedOr cause) (.error failure : Except Failure α) :=
  failsWith_error (.inl h)

/-- A wider cause. -/
theorem FailsWith.orCause {causes : Failure → Prop} {x : Except Failure α}
    (hx : FailsWith (ReportedOr cause) x) (h : ∀ failure, cause failure → causes failure) :
    FailsWith (ReportedOr causes) x :=
  hx.mono fun failure hfailure => hfailure.imp_right (h failure)

/-! ## Settings files -/

/-- What the system refuses is reported. -/
theorem SystemFault.kind_isReported (fault : SystemFault) : fault.kind.isReported = true := by
  unfold SystemFault.kind
  split <;> rfl

namespace SettingsPlace

variable {place : SettingsPlace} {path : Path}

/-- The table in a file is not there, or the file is refused. -/
theorem readTableFile_failsWith (hreader : ReadsLikeToml place.reader) (path : Path) :
    FailsWith (ReportedOr (place.DeepAt path)) (readTableFile place.reader place.disk path) := by
  unfold readTableFile
  split
  · rename_i contents hfile
    intro failure hfailure
    have hkind := hreader.refuses contents failure hfailure
    by_cases hdepth : failure.kind = .depth
    · exact .inr ⟨hdepth, contents, hfile, hfailure⟩
    · have hreported : ∀ kind ∈ Toml.refusals, kind ≠ .depth → kind.isReported = true := by
        decide
      exact .inl (hreported _ hkind hdepth)
  · exact failsWith_reported rfl
  · exact failsWith_reported rfl
  · exact failsWith_reported rfl
  · exact failsWith_reported rfl
  · exact failsWith_reported rfl
  · exact failsWith_reported (SystemFault.kind_isReported _)

/-- The options of a project are the table of a file, or it is reported why they are not. -/
theorem readProject?_failsWith (hreader : ReadsLikeToml place.reader) (path : Path) :
    FailsWith (ReportedOr (place.DeepAt path)) (readProject? place.reader place.disk path) := by
  refine (readTableFile_failsWith hreader path).bind fun table _ => ?_
  unfold projectOptions?
  split
  · split
    · exact failsWith_ok _
    · exact failsWith_ok _
    · exact failsWith_reported rfl
  · exact failsWith_ok _

/-- So are the options of a settings file. -/
theorem loadSettings_failsWith (hreader : ReadsLikeToml place.reader) (path : Path) :
    FailsWith (ReportedOr (place.DeepAt path)) (loadSettings place.reader place.disk path) := by
  unfold loadSettings
  split
  · refine (readProject?_failsWith hreader path).bind fun options? _ => ?_
    cases options? with
    | some options => exact failsWith_ok _
    | none => exact failsWith_reported rfl
  · exact readTableFile_failsWith hreader path

/-- Asking for a file fails if the system refuses to tell. -/
theorem isFileAt_failsWith (disk : Disk) (path : Path) :
    FailsWith (ReportedOr cause) (isFileAt disk path) := by
  unfold isFileAt
  split
  · exact failsWith_ok _
  · exact failsWith_ok _
  · exact failsWith_ok _
  · exact failsWith_ok _
  · exact failsWith_ok _
  · exact failsWith_reported rfl
  · exact failsWith_ok _
  · exact failsWith_reported (SystemFault.kind_isReported _)

/-- A project file is discovered, or it is reported why it cannot be read. -/
theorem discoverProject_failsWith (hreader : ReadsLikeToml place.reader) (path : Path) :
    FailsWith (ReportedOr (place.DeepAt path)) (discoverProject place.reader place.disk path) := by
  refine (isFileAt_failsWith _ _).bind fun isFile _ => ?_
  split
  · split
    · exact failsWith_ok _
    · exact failsWith_ok _
    · rename_i failure hfailure
      unfold Failure.inProject
      split
      · exact failsWith_reported rfl
      · exact failsWith_error (readProject?_failsWith hreader path failure hfailure)
  · exact failsWith_ok _

/-- A settings file is one of the candidates. -/
theorem mem_candidates_of_discoverSettings {given? : Option Path}
    (h : discoverSettings place.reader place.disk place.directory given? = .ok (some path)) :
    path ∈ settingsCandidates place.directory given? := by
  unfold discoverSettings at h
  cases given? with
  | some given =>
    obtain ⟨isFile, -, h⟩ := except_bind_ok_iff.1 h
    split at h
    · rw [← Option.some.inj (Except.ok.inj h)]
      exact List.mem_cons_self
    · cases h
  | none =>
    obtain ⟨isOwn, -, h⟩ := except_bind_ok_iff.1 h
    split at h
    · rw [← Option.some.inj (Except.ok.inj h)]
      exact List.mem_cons_self
    · obtain ⟨isProject, -, h⟩ := except_bind_ok_iff.1 h
      split at h
      · split at h
        · rw [← Option.some.inj (Except.ok.inj h)]
          exact List.mem_cons_of_mem _ List.mem_cons_self
        · cases h
        · cases h
      · cases h

/-- A settings file is discovered, or it is reported why not. -/
theorem discoverSettings_failsWith (hreader : ReadsLikeToml place.reader)
    (arguments : SettingsArguments) :
    FailsWith (ReportedOr (place.Escapes arguments))
      (discoverSettings place.reader place.disk place.directory arguments.path?) := by
  unfold discoverSettings
  cases hgiven : arguments.path? with
  | some given =>
    refine (isFileAt_failsWith _ _).bind fun isFile _ => ?_
    split
    · exact failsWith_ok _
    · exact failsWith_reported rfl
  | none =>
    refine (isFileAt_failsWith _ _).bind fun isOwn _ => ?_
    split
    · exact failsWith_ok _
    · refine (discoverProject_failsWith hreader _).orCause fun failure hdeep => .file ?_ hdeep
      rw [hgiven]
      exact List.mem_cons_of_mem _ List.mem_cons_self

/-- So are its options loaded. -/
theorem loadLayer_failsWith (hreader : ReadsLikeToml place.reader) {arguments : SettingsArguments}
    {path? : Option Path}
    (h : discoverSettings place.reader place.disk place.directory arguments.path? = .ok path?) :
    FailsWith (ReportedOr (place.Escapes arguments)) (place.loadLayer path?).result := by
  cases path? with
  | none => exact failsWith_ok _
  | some path =>
    exact Traced.failsWith_bind (failsWith_ok _) fun _ _ =>
      (loadSettings_failsWith hreader path).orCause fun failure hdeep =>
        .file (mem_candidates_of_discoverSettings h) hdeep

/-! ## Target arguments -/

/-- Target arguments give targets, or it is reported why not. -/
theorem addTargets_failsWith (targets : Entries Value) (queries arguments : List String) :
    FailsWith (ReportedOr fun failure => failure = .nestedTooDeeply ∧
      ∃ argument ∈ arguments, IsDeepArgument argument) (addTargets targets queries arguments) := by
  induction arguments generalizing targets queries with
  | nil => exact failsWith_ok _
  | cons argument rest ih =>
    have hrest : ∀ targets queries, FailsWith (ReportedOr fun failure =>
        failure = .nestedTooDeeply ∧ ∃ argument' ∈ argument :: rest, IsDeepArgument argument')
        (addTargets targets queries rest) :=
      fun targets queries => (ih targets queries).orCause fun failure ⟨heq, deep, hdeep, hcause⟩ =>
        ⟨heq, deep, List.mem_cons_of_mem _ hdeep, hcause⟩
    unfold addTargets
    refine FailsWith.bind ?split fun split hsplit => ?_
    case split =>
      unfold splitTarget
      dsimp only
      split
      · exact failsWith_reported rfl
      · split
        · exact failsWith_reported rfl
        · exact failsWith_ok _
    obtain ⟨environment, text⟩ := split
    dsimp only
    split
    · exact hrest _ _
    · refine FailsWith.bind ?value fun _ _ => hrest _ _
      case value =>
        unfold targetValue
        split
        · exact failsWith_ok _
        · exact failsWith_ok _
        · exact failsWith_reported rfl
        · rename_i hdeep
          exact failsWith_error (.inr ⟨rfl, argument, List.mem_cons_self, environment, text,
            hsplit, hdeep⟩)

/-- The options of a command line are read, or it is reported why not. -/
theorem layer_failsWith (place : SettingsPlace) (arguments : SettingsArguments) :
    FailsWith (ReportedOr (place.Escapes arguments)) arguments.layer := by
  refine FailsWith.bind ?_ fun _ _ => failsWith_ok _
  unfold SettingsArguments.targetsOption
  split
  · exact failsWith_ok _
  · refine ((addTargets_failsWith _ _ _).orCause ?_).map _
    rintro failure ⟨rfl, argument, hargument, hdeep⟩
    exact .argument hargument hdeep

/-- Options are gathered, or it is reported why not, unless something is nested too deeply. -/
theorem gather_failsWith (hreader : ReadsLikeToml place.reader) (arguments : SettingsArguments) :
    FailsWith (ReportedOr (place.Escapes arguments)) (place.gather arguments).result :=
  Traced.failsWith_bind (discoverSettings_failsWith hreader arguments) fun _ hpath =>
    Traced.failsWith_bind (loadLayer_failsWith hreader hpath) fun _ _ =>
      Traced.failsWith_bind (layer_failsWith place arguments) fun _ _ => failsWith_ok _

end SettingsPlace

/-! ## Targets -/

/-- A failure that shows a value is reported if it is itself, unless the value is nested too
deeply. -/
theorem Value.showing_reportedOr (writing : Writing) (value : Value) {failure : Failure}
    (h : failure.kind.isReported = true) :
    ReportedOr (value.Escapes writing) (value.showing writing.levels failure) := by
  unfold showing
  cases hobstacle : value.obstacle? writing.levels with
  | none => exact .inl h
  | some obstacle =>
    rcases eq_of_obstacle? value hobstacle with rfl | rfl
    · exact .inl rfl
    · exact .inr (.depth hobstacle)

namespace TargetSpec

/-- A table of targets is read, or it is reported why not, unless one of its values escapes. -/
theorem readEntries_failsWith_reportedOr (writing : Writing) (spec : TargetSpec)
    (entries : Entries Value) :
    FailsWith (ReportedOr (TargetsEscape writing entries))
      (spec.readEntries writing entries).result := by
  have hvalue : ∀ key value failure, (key, value) ∈ entries →
      ReportedOr (value.Escapes writing) failure →
        ReportedOr (TargetsEscape writing entries) failure :=
    fun key value failure hentry h => h.imp_right fun hescapes => ⟨(key, value), hentry, hescapes⟩
  refine readEntries_failsWith_of spec ?browsers ?electron ?constraint
  case browsers =>
    exact fun value hentry hdeep => hvalue _ value _ hentry (.inr (.depth hdeep.depth))
  case electron =>
    rintro key value failure hentry (_ | _)
    · exact .inl rfl
    · exact hvalue key value _ hentry (value.showing_reportedOr writing rfl)
  case constraint =>
    rintro key value failure hentry (hrange | _)
    · exact hvalue key _ _ hentry (.inr (.range rfl hrange))
    · exact hvalue key value _ hentry (value.showing_reportedOr writing rfl)

end TargetSpec

namespace PresetOptions

/-- Whether a value among the targets of options fails without being reported. -/
def Escape (writing : Writing) (options : Entries Value) (failure : Failure) : Prop :=
  ∃ targets, options.get? targetsKey = some (.map targets) ∧ TargetsEscape writing targets failure

/-- Options are valid, or it is reported why not, unless a value among their targets escapes. -/
theorem read_failsWith_reportedOr (writing : Writing) (known? : Option (List String))
    (options : Entries Value) : FailsWith (ReportedOr (Escape writing options))
      (read writing known? (.map options)).result := by
  rw [read_map]
  refine readTable_failsWith_of (fun failure hkind => .inl (by rw [hkind]; rfl)) ?_
  intro targets hget
  exact (TargetSpec.readEntries_failsWith_reportedOr writing {} targets).orCause
    fun failure h => ⟨targets, hget, h⟩

end PresetOptions

/-! ## Resolution -/

/-- The version of the runtime is found out, or it is reported why not. -/
theorem runtimeVersion_failsWith (reply : RuntimeReply) :
    FailsWith (fun failure => failure.kind.isReported = true) (runtimeVersion reply).result := by
  unfold runtimeVersion
  split
  · exact failsWith_error rfl
  · exact failsWith_error (SystemFault.kind_isReported _)
  · exact failsWith_error rfl
  · exact failsWith_error rfl
  · refine Traced.failsWith_bind ?_ fun version? _ => ?_
    · show FailsWith _ (leadingFloat _)
      unfold leadingFloat
      split
      · exact failsWith_ok _
      · split
        · exact failsWith_ok _
        · exact failsWith_error rfl
    · cases version? with
      | none => exact failsWith_error rfl
      | some version => exact Traced.failsWith_bind (failsWith_ok _) fun _ _ => failsWith_ok _

namespace Host

/-- The targets of a command resolve, or it is reported why not. -/
theorem resolveSpec_failsWith_reported (host : Host) (given? : Option Registry)
    (spec : TargetSpec) : FailsWith (fun failure => failure.kind.isReported = true)
      ((host.session given?).normalizer.resolveSpec spec).result := by
  refine (Normalizer.resolveSpec_failsWith _ spec).mono ?_
  rintro failure (hkind | hruntime | ⟨queries, hqueries⟩)
  · exact hkind.isReported (by decide)
  · have hversion : FailsWith (fun failure => failure.kind.isReported = true)
        (host.session given?).normalizer.nodeVersion.result :=
      Traced.failsWith_bind (runtimeVersion_failsWith _) fun _ _ => failsWith_ok _
    exact hversion failure hruntime
  · exact (literalReleases_failsWith queries failure hqueries).isReported (by decide)

/-- Why a command cannot resolve its targets, in what can be written, and no report is made of
it. -/
inductive ResolvingEscapes (host : Host) (writing : Writing) (arguments : SettingsArguments) :
    Failure → Prop
  /-- A settings file or a target argument is nested too deeply. -/
  | gathering {failure : Failure} (hcause : host.settings.Escapes arguments failure) :
    ResolvingEscapes host writing arguments failure
  /-- A value among the targets is an integer out of range, or is nested too deeply to be shown in
  a message. -/
  | target {options : Entries Value} {failure : Failure}
    (hgather : (host.settings.gather arguments).result = .ok options)
    (hcause : PresetOptions.Escape writing options failure) :
    ResolvingEscapes host writing arguments failure

variable {host : Host} {arguments : SettingsArguments}

/-- Targets are resolved, or the failure is reported, or it escapes. -/
theorem resolveTargets_failsWith (hreader : ReadsLikeToml host.settings.reader) :
    FailsWith (ReportedOr (host.ResolvingEscapes host.writing arguments))
      (host.resolveTargets arguments).result := by
  refine Traced.failsWith_bind ((SettingsPlace.gather_failsWith hreader arguments).orCause
    fun _ hcause => .gathering hcause) fun options hgather => ?_
  refine Traced.failsWith_bind ((PresetOptions.read_failsWith_reportedOr _ _ options).orCause
    fun _ hcause => .target hgather hcause) fun validated _ => ?_
  exact (host.resolveSpec_failsWith_reported none validated.targets).mono fun _ => .inl

end Host

end TransformPreset
