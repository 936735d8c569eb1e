import TransformPreset.Proofs.Command.Gathering
import TransformPreset.Proofs.Console.Table
import TransformPreset.Proofs.Preset.InnerReading
import TransformPreset.Proofs.Settings.Discovery

/-!
# The commands that show targets agree

One command resolves targets, another a whole preset. Both gather the same options; the first then
validates them and resolves their targets, while the second goes through a whole build. In a session
without entry points nothing else of a build can fail, so one command succeeds exactly if the other
does, with the same targets, and they fail alike (`Command.targets_agrees`). The one difference is
that a build runs inside of one more call: a target whose value is nested so deeply that it can only
just be written makes the build fail (`Command.targets_differ`).
-/

namespace TransformPreset

/-- Outcomes of commands of a host, of which the first shows targets and the second a preset, that
agree on the targets. -/
structure AgreeOnTargets (host : Host) (shown resolved : CommandOutcome) : Prop where
  /-- Either both commands succeed or neither does. -/
  status : shown.status = 0 ↔ resolved.status = 0
  /-- If they do, the targets that the first shows in JSON are the member `targets` of what the
  second shows last, in JSON as well; before it the second shows nothing but a debug report. -/
  success : shown.status = 0 → ∃ (targets payload : Entries Value) (text whole : String)
      (report : List String),
    Json.write .lines answerLevels (.map targets) = .ok text ∧
    shown.screen = host.console.printText text ∧
    Json.write .lines answerLevels (.map payload) = .ok whole ∧
    resolved.screen = report.flatMap host.console.printText ++ host.console.printText whole ∧
    payload.get? "targets" = some (.map targets) ∧
    (report = [] ∨ ∃ plan : Plan, Json.sortKeys (.map plan.targets) = .map targets ∧
      plan.reportLines shippedTables host.writing.inner = report.map .ok) ∧
    shown.escaped = none ∧ resolved.escaped = none
  /-- If they do not, they show the same, and the same failure escapes from both or from neither. -/
  failure : shown.status ≠ 0 → shown.status = 1 ∧ resolved.status = 1 ∧
    resolved.screen = shown.screen ∧ resolved.escaped = shown.escaped

/-- Whether the value of a target of a command can be written by the command that shows targets, but
is too deep for a build, which runs inside of one more call. -/
def Host.IsTooDeepInside (host : Host) (arguments : SettingsArguments) : Prop :=
  ∃ options, (host.settings.gather arguments).result = .ok options ∧
    PresetOptions.IsTooDeepInside host.writing options

/-- A command that ends with nothing on the screen because something is nested too deeply. -/
structure CommandOutcome.StopsAtDepth (outcome : CommandOutcome) : Prop where
  /-- It fails. -/
  status : outcome.status = 1
  /-- Nothing is shown. -/
  screen : outcome.screen = []
  /-- The failure escapes. -/
  escaped : outcome.escaped = some .nestedTooDeeply

namespace Host

/-- Without entry points, the targets that a command resolves are those of the preset that another
one does, and either both commands fail, in the same way, or neither does, unless a target is too
deep for the build. -/
theorem resolvePreset_sameUnlessDeep (host : Host) (config : Option String)
    (targets : List String) (hsources : host.sources.entryPoints = [])
    (hreader : ReadsData host.settings.reader) :
    SameUnlessDeep (host.IsTooDeepInside { config, targets })
      (host.resolveTargets { config, targets }).result
      ((host.resolvePreset { config, targets } []).result.map Preset.targets) := by
  obtain ⟨registry, -, hdiscover⟩ := exists_ofTables hsources []
  unfold resolveTargets resolvePreset
  cases hgather : (host.settings.gather { config, targets }).result with
  | error failure =>
    rw [Traced.bind_error hgather, Traced.bind_error hgather]
    exact .refl _ _
  | ok options =>
    have hregistry : (Traced.of (host.discover [])).result = .ok registry := hdiscover
    rw [Traced.bind_ok hgather, Traced.bind_ok hgather, Traced.bind_ok hregistry]
    dsimp only
    rw [(ready_of_discover hdiscover).map_targets_build
      (fun spec hspec => absurd hspec (targets_of_gather hreader hgather spec))
      (host.canReport registry _)]
    refine SameUnlessDeep.bind ?read fun validated => ?resolve
    case read =>
      exact (PresetOptions.read_inner host.writing _ options).mono fun hdeep =>
        ⟨options, hgather, hdeep⟩
    case resolve =>
      exact .inl (congrArg Traced.result
        ((host.session none).normalizer.resolveSpec_withWriting host.writing.inner _))

/-- No failure to resolve targets is one of importing a module. -/
theorem resolveTargets_notOfImport (host : Host) {arguments : SettingsArguments}
    (hreader : ReadsLikeToml host.settings.reader) :
    FailsWith (fun failure => failure.kind.isOfImport = false)
      (host.resolveTargets arguments).result := by
  have hreported : ∀ kind : Failure.Kind, kind.isReported = true → kind.isOfImport = false := by
    rintro ⟨⟩ <;> decide
  refine (resolveTargets_failsWith hreader).mono ?_
  rintro failure (hkind | ⟨⟨-, hdepth, -⟩ | _⟩ | ⟨-, -, -, -, -, _ | _⟩)
  · exact hreported _ hkind
  · rw [hdepth]
    rfl
  · rfl
  · rfl
  · rfl

end Host

namespace Command

variable {host : Host}

/-- Of a failure that is none of importing a module, commands that show targets or a preset say the
same. -/
theorem report_resolve_eq {failure : Failure} (h : failure.kind.isOfImport = false)
    (console : Console) (arguments : SettingsArguments) (bundles : List String) (json : Bool) :
    report console (.resolve arguments bundles json) failure =
      report console (.targets arguments json) failure := by
  have hreports : (resolve arguments bundles json).reports failure.kind =
      (targets arguments json).reports failure.kind := by
    show (_ || failure.kind.isOfImport) = _
    rw [h, Bool.or_false]
    rfl
  unfold report
  rw [hreports]
  rfl

/-- Commands that resolve a preset and its targets agree on the targets. -/
theorem agreeOnTargets_of_ok {arguments : SettingsArguments} {preset : Preset}
    (least : LogLevel)
    (htargets : ((host.logging least).resolveTargets arguments).result = .ok preset.targets)
    (hpreset : ((host.logging least).resolvePreset arguments []).result = .ok preset) :
    AgreeOnTargets host ((Command.targets arguments true).run host least)
      ((Command.resolve arguments [] true).run host least) := by
  obtain ⟨text, shownLog, htext, hshown⟩ := run_targets_of_ok least htargets
  obtain ⟨whole, resolvedLog, hwhole, hresolved⟩ := run_resolve_of_ok least hpreset
  obtain ⟨payload, hpayload, hmember⟩ := preset.exists_payload
  rw [hshown, hresolved]
  rw [answerText, hpayload] at hwhole
  refine ⟨Iff.rfl, fun _ => ⟨_, payload, text, whole, _, htext, rfl, hwhole, rfl, hmember, ?report,
    rfl, rfl⟩, fun h => absurd rfl h⟩
  case report =>
    rcases Host.lines_resolvePreset_of_ok hpreset with hnone | ⟨plan, hplan, hlines⟩
    · exact .inl hnone
    · exact .inr ⟨plan, hplan ▸ rfl, hlines⟩

/-- Commands that fail to resolve a preset and its targets, in the same way and with nothing printed
before, report or let escape the same. -/
theorem agreeOnTargets_of_error {arguments : SettingsArguments} {failure : Failure}
    (least : LogLevel)
    (htargets : ((host.logging least).resolveTargets arguments).result = .error failure)
    (hpreset : ((host.logging least).resolvePreset arguments []).result = .error failure)
    (himport : failure.kind.isOfImport = false) :
    AgreeOnTargets host ((Command.targets arguments true).run host least)
      ((Command.resolve arguments [] true).run host least) := by
  obtain ⟨shownLog, hshown⟩ := run_of_silent_error least
    (Traced.bind_result_error_iff.2 (.inl htargets))
    ((lines_work_targets _ _ _).trans (Host.lines_resolveTargets _ _))
  obtain ⟨resolvedLog, hresolved⟩ := run_of_silent_error least
    (Traced.bind_result_error_iff.2 (.inl hpreset))
    ((lines_work_resolve _ _ _ _).trans (Host.lines_resolvePreset_of_error hpreset))
  rw [report_resolve_eq himport] at hresolved
  rw [hshown, hresolved]
  cases report host.console (.targets arguments true) failure with
  | ok items =>
    exact ⟨Iff.rfl, fun h => absurd h Nat.one_ne_zero, fun _ => ⟨rfl, rfl, rfl, rfl⟩⟩
  | error escaped =>
    exact ⟨Iff.rfl, fun h => absurd h Nat.one_ne_zero, fun _ => ⟨rfl, rfl, rfl, rfl⟩⟩

/-- A command that fails to resolve a preset for a depth ends so. -/
theorem stopsAtDepth_of_error {arguments : SettingsArguments} {bundles : List String} {json : Bool}
    (least : LogLevel) (h : ((host.logging least).resolvePreset arguments bundles).result =
      .error .nestedTooDeeply) :
    ((Command.resolve arguments bundles json).run host least).StopsAtDepth := by
  obtain ⟨log, hrun⟩ := run_of_silent_error least (Traced.bind_result_error_iff.2 (.inl h))
    ((lines_work_resolve _ _ _ _).trans (Host.lines_resolvePreset_of_error h))
  rw [hrun]
  exact ⟨rfl, rfl, rfl⟩

/-- Without entry points, and with no options but a settings file and targets, the command that
shows targets in JSON and the one that shows a preset agree: both succeed or neither does, they show
the same targets, and they fail alike. Where a target can only just be written by the first, the
second may stop at its depth instead. -/
theorem targets_agrees (host : Host) (config : Option String) (targets : List String)
    (least : LogLevel) (hsources : host.sources.entryPoints = [])
    (hreader : ReadsLikeToml host.settings.reader) :
    AgreeOnTargets host ((Command.targets { config, targets } true).run host least)
        ((Command.resolve { config, targets } [] true).run host least) ∨
      host.IsTooDeepInside { config, targets } ∧
        ((Command.resolve { config, targets } [] true).run host least).StopsAtDepth := by
  have hsame :=
    (host.logging least).resolvePreset_sameUnlessDeep config targets hsources hreader.data
  cases hpreset : ((host.logging least).resolvePreset { config, targets } []).result with
  | ok preset =>
    rw [hpreset] at hsame
    rcases hsame with heq | ⟨hdeep, -⟩
    · exact .inl (agreeOnTargets_of_ok least heq.symm hpreset)
    · cases hdeep
  | error failure =>
    rw [hpreset] at hsame
    rcases hsame with heq | ⟨hdeep, hcause⟩
    · exact .inl (agreeOnTargets_of_error least heq.symm hpreset
        ((host.logging least).resolveTargets_notOfImport hreader failure heq.symm))
    · obtain rfl := Except.error.inj hdeep
      exact .inr ⟨hcause, stopsAtDepth_of_error least hpreset⟩

/-- A host with a settings file in its directory, and nothing else. -/
def fileHost (contents : ByteArray) : Host where
  settings :=
    { disk := fun path => if path.names = [settingsName] then .file contents else .missing
      directory := Path.ofText "."
      reader := Toml.read }
  runtime := .missing
  console := terminal

/-- A host with a settings file and a runtime. -/
def smallHost : Host :=
  { fileHost "debug = true\n[targets]\nie = 9".toUTF8 with runtime := .printed "v18.17.1" }

/-- With targets from a file and from an argument both commands succeed. -/
theorem smallHost_targets_agrees :
    ((Command.resolve { targets := ["node=current"] } [] true).run smallHost .warning).status =
      0 := by
  obtain ⟨canonical, hcanonical⟩ : ∃ canonical,
      ((smallHost.logging .warning).resolveTargets { targets := ["node=current"] }).result =
        .ok canonical :=
    exists_ok_of_isSome (by decide +kernel)
  obtain ⟨text, log, -, hshown⟩ := run_targets_of_ok .warning hcanonical
  have hwritten : ((smallHost.settings.gather { targets := ["node=current"] }).result.toOption.all
      (PresetOptions.areTargetsWritten smallHost.writing.inner.levels)) = true := by
    decide +kernel
  rcases targets_agrees smallHost none ["node=current"] .warning rfl Toml.readsLikeToml with
    hagree | ⟨⟨options, hgather, hdeep⟩, -⟩
  · exact hagree.status.1 (by rw [hshown])
  · rw [hgather] at hwritten
    exact absurd hdeep (PresetOptions.not_isTooDeepInside hwritten)

/-! ## A target that is just not too deep -/

/-- The characters of a settings file in which the version of chrome is a table in a table, and so
on, as deep as a table can just be written. -/
def deepSettingsText : List Char :=
  "targets.chrome".toList ++ (List.replicate 978 ['.', 'a']).flatten ++ " = \x7b\x7d".toList

/-- That file. -/
def deepSettings : String :=
  String.ofList deepSettingsText

/-- A host with that file. -/
def deepHost : Host :=
  fileHost deepSettings.toUTF8

/-- Whether a value is no number and can be written, but not inside of one more call. -/
def isJustWritten (writing : Writing) (value : Value) : Bool :=
  value.number?.isNone && (value.obstacle? writing.levels).isNone &&
    match value.obstacle? writing.inner.levels with
    | some .nestedTooDeeply => true
    | _ => false

variable {writing : Writing} {value : Value} {contents : ByteArray}

/-- A value that is just written is refused as a version, and inside of one more call for its
depth. -/
theorem readConstraint_of_isJustWritten (h : isJustWritten writing value = true) :
    readConstraint writing "chrome" value = .error (.versionNotNumber "chrome" value) ∧
      readConstraint writing.inner "chrome" value = .error .nestedTooDeeply := by
  rw [isJustWritten, Bool.and_eq_true, Bool.and_eq_true, Option.isNone_iff_eq_none,
    Option.isNone_iff_eq_none] at h
  obtain ⟨⟨hnumber, houter⟩, hinner⟩ := h
  have hchrome : ¬("chrome" = nodeKey ∧ asksCurrent value = true) :=
    fun h => absurd h.1 (by decide)
  split at hinner
  · rename_i hdeep
    constructor
    · rw [readConstraint, if_neg hchrome, hnumber, Value.showing, houter]
      rfl
    · rw [readConstraint, if_neg hchrome, hnumber, Value.showing, hdeep]
      rfl
  · cases hinner

/-- Without arguments the options of a command are those of the file. -/
theorem gather_fileHost {options : Entries Value} (h : Toml.read contents = .ok options) :
    ((fileHost contents).settings.gather {}).result = .ok options :=
  Traced.bind_result_ok_iff.2 ⟨some ((Path.ofText ".").child settingsName), rfl,
    Traced.bind_result_ok_iff.2 ⟨options, h, rfl⟩⟩

/-- A version of chrome that is just written is reported by the command that shows targets, and the
one that shows a preset stops at its depth. -/
theorem run_of_isJustWritten (hvalue : isJustWritten {} value = true)
    (hread : Toml.read contents = .ok [(targetsKey, .map [("chrome", value)])]) :
    ((Command.targets {} true).run (fileHost contents) .warning).escaped = none ∧
      ((Command.resolve {} [] true).run (fileHost contents) .warning).StopsAtDepth := by
  obtain ⟨houter, hinner⟩ := readConstraint_of_isJustWritten hvalue
  have hgather : (((fileHost contents).logging .warning).settings.gather {}).result = _ :=
    gather_fileHost hread
  constructor
  · obtain ⟨rest, hreport⟩ := terminal_lawful.error
      (Failure.versionNotNumber "chrome" value).message
    have hshown : (Command.targets {} true).report terminal (.versionNotNumber "chrome" value) =
        .ok (terminal.printText ("error" ++ rest)) :=
      hreport
    obtain ⟨log, hrun⟩ := run_of_silent_error .warning
      (Traced.bind_result_error_iff.2
        (.inl (Host.resolveTargets_of_constraint hgather (by decide) houter)))
      ((lines_work_targets _ {} true).trans (Host.lines_resolveTargets _ _))
    rw [show (fileHost contents).console = terminal from rfl, hshown] at hrun
    rw [hrun]
  · exact stopsAtDepth_of_error .warning
      (Host.resolvePreset_of_constraint rfl hgather (by decide) hinner)

/-- Whether a document gives nothing but a version of chrome, and one that is just written. -/
def IsJustWrittenChrome (document : Except Failure (Entries Value)) : Prop :=
  ∃ value, isJustWritten {} value = true ∧
    document = .ok [(targetsKey, .map [("chrome", value)])]

/-- A test for it. -/
def isJustWrittenChrome : Except Failure (Entries Value) → Bool
  | .ok [(option, .map [(environment, value)])] =>
    option == targetsKey && environment == "chrome" && isJustWritten {} value
  | _ => false

/-- A document that passes the test gives such a version. -/
theorem IsJustWrittenChrome.of_test {document : Except Failure (Entries Value)}
    (h : isJustWrittenChrome document = true) : IsJustWrittenChrome document := by
  unfold isJustWrittenChrome at h
  split at h
  · rename_i option environment value
    rw [Bool.and_eq_true, Bool.and_eq_true, beq_iff_eq, beq_iff_eq] at h
    obtain ⟨⟨rfl, rfl⟩, hvalue⟩ := h
    exact ⟨value, hvalue, rfl⟩
  · cases h

/-- The file gives such a version. -/
theorem isJustWrittenChrome_deepSettings :
    IsJustWrittenChrome (Toml.read deepSettings.toUTF8) := by
  -- The characters are read, so that no bytes are taken apart one by one.
  rw [read_toUTF8, deepSettings, String.toList_ofList]
  exact .of_test (by decide +kernel)

/-- The commands do not agree on a version that is just written: one reports it, and the other stops
at its depth. -/
theorem targets_differ :
    deepHost.sources.entryPoints = [] ∧ ReadsLikeToml deepHost.settings.reader ∧
      ((Command.targets {} true).run deepHost .warning).escaped = none ∧
      ((Command.resolve {} [] true).run deepHost .warning).StopsAtDepth ∧
      ¬AgreeOnTargets deepHost ((Command.targets {} true).run deepHost .warning)
        ((Command.resolve {} [] true).run deepHost .warning) := by
  obtain ⟨value, hvalue, hread⟩ := isJustWrittenChrome_deepSettings
  have hrun : ((Command.targets {} true).run deepHost .warning).escaped = none ∧
      ((Command.resolve {} [] true).run deepHost .warning).StopsAtDepth :=
    run_of_isJustWritten hvalue hread
  refine ⟨rfl, Toml.readsLikeToml, hrun.1, hrun.2, fun hagree => ?_⟩
  have hstatus : ((Command.targets {} true).run deepHost .warning).status ≠ 0 := by
    rw [Ne, hagree.status, hrun.2.status]
    exact Nat.one_ne_zero
  obtain ⟨-, -, -, hescaped⟩ := hagree.failure hstatus
  rw [hrun.2.escaped, hrun.1] at hescaped
  cases hescaped

end Command

end TransformPreset
