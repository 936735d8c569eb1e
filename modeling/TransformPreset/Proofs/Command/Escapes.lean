import TransformPreset.Proofs.Command.Gathering
import TransformPreset.Proofs.Console.Table
import TransformPreset.Proofs.Number.Written
import TransformPreset.Proofs.Preset.Shape
import TransformPreset.Proofs.Registry.Bundles

/-!
# Failures that escape from a command

A command that shows targets or a preset ends with an answer or with a report of its failure, but
for a few failures that escape (`Command.Escapes`): some are of kinds that no report is made of, and
some come up only when the answer is shown in a table, whose cells are read as markup. Every stage
of a command is followed for the failures that it has, and every other one is reported, whatever the
console makes of markup (`Command.run_ends`). An integer out of range among the targets does escape
(`Command.run_escapes`).
-/

namespace TransformPreset

/-- Whether a cell of a table is plain for a console: it holds no bracket, or it is escaped. -/
def Console.IsPlain (console : Console) (cell : String) : Prop :=
  '[' ∉ cell.toList ∨ ∃ text, cell = console.escape text

/-- Whether a cell that is not plain is in a table that a console does not print. -/
structure Console.Refuses (console : Console) (cell : String) (failure : Failure) : Prop where
  /-- The cell is not plain. -/
  markup : ¬console.IsPlain cell
  /-- It is in a table that is not printed. -/
  table : ∃ table : TableMarkup, (∃ row ∈ table.rows, cell ∈ row) ∧
    console.printTable table = .error failure

/-- A table that is not printed has a cell that is not plain. -/
theorem Console.Lawful.exists_refuses {console : Console} (h : console.Lawful)
    {table : TableMarkup} {failure : Failure} (herror : console.printTable table = .error failure) :
    ∃ row ∈ table.rows, ∃ cell ∈ row, console.Refuses cell failure := by
  by_contra hnone
  push Not at hnone
  have hplain : ∀ row ∈ table.rows, ∀ cell ∈ row, console.IsPlain cell := by
    intro row hrow cell hcell
    by_contra hmarkup
    exact hnone row hrow cell hcell ⟨hmarkup, table, ⟨row, hrow, hcell⟩, herror⟩
  obtain ⟨items, hitems⟩ := h.table table hplain
  cases hitems.symm.trans herror

namespace Command

/-- The options of a command that settle those of a preset, if it has any. -/
def settings? : Command → Option SettingsArguments
  | .resolve settings _ _ | .targets settings _ => some settings
  | .list _ => none

/-- What a command can write in a message about its options. A preset is built inside of one more
call. -/
def writing (host : Host) : Command → Writing
  | .resolve .. => host.writing.inner
  | .targets .. | .list _ => host.writing

/-- Why a failure escapes from a command that shows targets or a preset. -/
inductive Escapes (host : Host) : Command → Failure → Prop
  /-- The targets cannot be resolved, for a depth or for an integer out of range. -/
  | resolving {command : Command} {arguments : SettingsArguments} {failure : Failure}
    (hsettings : command.settings? = some arguments)
    (hcause : host.ResolvingEscapes (command.writing host) arguments failure) :
    Escapes host command failure
  /-- A bundle is named from a place that is not known, something has to be called for it that needs
  arguments, or something is imported or called for it that raises what is not reported. -/
  | bundle {arguments : SettingsArguments} {bundles : List String} {json : Bool} {bundle : String}
    {failure : Failure} (hbundle : bundle ∈ bundles)
    (hcause : loadBundle host.sources bundle = .error failure)
    (hkind : failure.kind = .type ∨ ∃ raised, failure = .raised raised ∧
      (Command.resolve arguments bundles json).reports raised.kind = false) :
    Escapes host (.resolve arguments bundles json) failure
  /-- In a table, the package of a unit of a bundle is markup that the console refuses. -/
  | package {arguments : SettingsArguments} {bundles : List String} {bundle : String}
    {units : List NamedUnit} {unit : NamedUnit} {failure : Failure} (hbundle : bundle ∈ bundles)
    (hload : loadBundle host.sources bundle = .ok units) (hunit : unit ∈ units)
    (hcause : host.console.Refuses unit.package failure) :
    Escapes host (.resolve arguments bundles false) failure
  /-- In a table, the version of a target is an integer out of range. -/
  | version {arguments : SettingsArguments} {canonical : CanonicalTargets} {environment : String}
    {n : Int} (hresolve : (host.resolveTargets arguments).result = .ok canonical)
    (htarget : (environment, Value.int n) ∈ canonical) (hrange : Binary64.ofInt? n = none) :
    Escapes host (.targets arguments false) .integerTooLarge
  /-- In a table, the environment of a target is markup that the console refuses. -/
  | environment {arguments : SettingsArguments} {canonical : CanonicalTargets}
    {environment : String} {failure : Failure}
    (hresolve : (host.resolveTargets arguments).result = .ok canonical)
    (htarget : environment ∈ canonical.keys)
    (hcause : host.console.Refuses environment failure) :
    Escapes host (.targets arguments false) failure

/-- Whether a failure of a command is reported, or escapes for a known cause. -/
def ReportsOrEscapes (host : Host) (command : Command) (failure : Failure) : Prop :=
  command.reports failure.kind = true ∨ command.Escapes host failure

/-- How a command ends. -/
inductive Ends (host : Host) (command : Command) (outcome : CommandOutcome) : Prop
  /-- It shows what it is asked for. -/
  | answered (hstatus : outcome.status = 0) (hescaped : outcome.escaped = none)
  /-- It fails, and nothing is on the screen but one report of the failure as an error. -/
  | reported {failure : Failure} {rest : String}
    (hfailure : (command.work host).result = .error failure)
    (hstatus : outcome.status = 1)
    (hreport : command.report host.console failure = .ok outcome.screen)
    (hscreen : outcome.screen = host.console.printText ("error" ++ rest))
    (hescaped : outcome.escaped = none)
  /-- A failure escapes, and it is known why. -/
  | escaped {failure : Failure} (hcause : command.Escapes host failure)
    (hstatus : outcome.status = 1) (hescaped : outcome.escaped = some failure)

variable {host : Host} {command : Command} {arguments : SettingsArguments} {failure : Failure}

/-- A failure that every command reports is reported, unless its cause lets it escape. -/
theorem reportsOrEscapes (hsettings : command.settings? = some arguments)
    (h : ReportedOr (host.ResolvingEscapes (command.writing host) arguments) failure) :
    command.ReportsOrEscapes host failure := by
  refine h.imp (fun hreported => ?_) (.resolving hsettings)
  cases command with
  | resolve => exact Bool.or_eq_true_iff.2 (.inl hreported)
  | targets => exact hreported
  | list => cases hsettings

end Command

namespace Host

variable {host : Host} {arguments : SettingsArguments} {bundles : List String} {json : Bool}

/-- Without entry points a registry cannot be discovered if a bundle cannot be loaded. -/
theorem discover_failsWith (hsources : host.sources.entryPoints = []) :
    FailsWith ((Command.resolve arguments bundles json).ReportsOrEscapes host)
      (host.discover bundles) := by
  obtain ⟨ofTables, -, hdiscover⟩ := exists_ofTables hsources bundles
  rw [hdiscover]
  intro failure hfailure
  obtain ⟨bundle, hbundle, hload⟩ := Registry.loadModuleBundles_error hfailure
  rcases loadBundle_failsWith host.sources bundle failure hload with hkind | ⟨raised, rfl⟩
  · by_cases htype : failure.kind = .type
    · exact .inr (.bundle hbundle hload (.inl htype))
    · have hreported : ∀ kind ∈ [Failure.Kind.value, .moduleNotFound, .type], kind ≠ .type →
          (kind.isOfPreset || kind.isOfValue || kind.isOfSystem || kind.isOfImport) = true := by
        decide
      exact .inl (hreported _ hkind htype)
  · cases hreports : (Command.resolve arguments bundles json).reports raised.kind with
    | true => exact .inl hreports
    | false => exact .inr (.bundle hbundle hload (.inr ⟨raised, rfl, hreports⟩))

/-- A preset is resolved, or the failure is reported, or it escapes. -/
theorem resolvePreset_failsWith (hsources : host.sources.entryPoints = [])
    (hreader : ReadsLikeToml host.settings.reader) :
    FailsWith ((Command.resolve arguments bundles json).ReportsOrEscapes host)
      (host.resolvePreset arguments bundles).result := by
  have hsettings : (Command.resolve arguments bundles json).settings? = some arguments := rfl
  have hends : ∀ failure, ReportedOr (host.ResolvingEscapes host.writing.inner arguments) failure →
      (Command.resolve arguments bundles json).ReportsOrEscapes host failure :=
    fun failure => Command.reportsOrEscapes hsettings
  refine Traced.failsWith_bind (((SettingsPlace.gather_failsWith hreader arguments).orCause
    fun _ => .gathering).mono hends) fun options hgather => ?_
  refine Traced.failsWith_bind (discover_failsWith hsources) fun registry hdiscover => ?_
  -- A build in a ready session fails as reading its options or resolving their targets does.
  intro failure hfailure
  have htargets := (ready_of_discover hdiscover).map_targets_build
    (fun spec hspec => absurd hspec (targets_of_gather hreader.data hgather spec))
    (host.canReport registry _)
  rw [hfailure] at htargets
  refine hends failure (Traced.failsWith_bind ((PresetOptions.read_failsWith_reportedOr _ _
    options).orCause fun _ => .target hgather) (fun validated _ => ?_) failure htargets.symm)
  rw [show (host.buildSession registry).normalizer.resolveSpec validated.targets = _ from
    (host.session none).normalizer.resolveSpec_withWriting host.writing.inner validated.targets]
  exact (host.resolveSpec_failsWith_reported none validated.targets).mono fun _ => .inl

/-! ## What is shown of a preset -/

variable {preset : Preset}

/-- The names that the tables have for units. -/
def unitNames (tables : CapabilityTables) : List String :=
  tables.knownNames ++ tables.modules.map Prod.snd ++ [polyfillUnitId]

/-- None of the shipped names holds an opening bracket. -/
theorem noBracket_unitNames : ∀ name ∈ unitNames shippedTables, '[' ∉ name.toList := by
  decide +kernel

/-- Neither does the package of a unit that the tables call for. -/
theorem noBracket_package :
    ∀ unit ∈ builtInUnits shippedTables, '[' ∉ unit.package.toList := by
  have hpackage : ∀ id ∈ unitNames shippedTables, '[' ∉ (NamedUnit.ofId id).package.toList := by
    intro id hid
    show '[' ∉ ("babel-plugin-" ++ id).toList
    rw [String.toList_append, List.mem_append, not_or]
    exact ⟨by decide, noBracket_unitNames id hid⟩
  intro unit hunit
  rcases List.mem_append.1 hunit with hunit | hunit
  · obtain ⟨id, hid, rfl⟩ := List.mem_map.1 hunit
    refine hpackage id ?_
    rcases List.mem_append.1 (mem_distinct.1 hid) with hplugin | hmodule
    · exact List.mem_append_left _ (List.mem_append_left _
        (List.mem_append_left _ (List.mem_append_left _ hplugin)))
    · exact List.mem_append_left _ (List.mem_append_right _ hmodule)
  · rw [List.mem_singleton.1 hunit]
    exact hpackage _ (List.mem_append_right _ List.mem_cons_self)

/-- What a plan calls for is named by the tables. -/
theorem calls_named {normalizer : Normalizer} {value : Value} {validated : PresetOptions}
    {plan : Plan}
    (hoptions : ((OptionsInput.raw value).validate shippedTables normalizer.writing).result =
      .ok validated)
    (hmade : Plan.MadeFrom shippedTables normalizer validated plan) :
    ∀ call ∈ unitCalls shippedTables plan.loose plan.moduleType plan.transformations plan.polyfills,
      call.1 ∈ unitNames shippedTables := by
  intro call hcall
  rcases List.mem_append.1 hcall with hcall | hcall
  · rcases List.mem_append.1 hcall with hcall | hcall
    · obtain ⟨id, hid, rfl⟩ := List.mem_map.1 hcall
      obtain ⟨type, -, hget⟩ := Option.bind_eq_some_iff.1 (Option.mem_toList.1 hid)
      exact List.mem_append_left _ (List.mem_append_right _
        (List.mem_map.2 ⟨(type.name, id), Entries.mem_of_get? hget, rfl⟩))
    · obtain ⟨name, hname, rfl⟩ := List.mem_map.1 hcall
      exact List.mem_append_left _ (List.mem_append_left _
        (hmade.transformations_subset_knownNames hoptions name hname))
  · obtain ⟨names, -, rfl⟩ := List.mem_map.1 hcall
    exact List.mem_append_right _ List.mem_cons_self

/-- The id of a unit of a preset that a command resolves is plain, and so is its package, unless the
unit is one of a bundle. -/
theorem plain_unit (console : Console) (hsources : host.sources.entryPoints = [])
    (h : (host.resolvePreset arguments bundles).result = .ok preset) {configured : ConfiguredUnit}
    (hmem : configured ∈ preset.plugins) :
    console.IsPlain configured.unit.id ∧
      (console.IsPlain configured.unit.package ∨ ∃ bundle ∈ bundles, ∃ units,
        loadBundle host.sources bundle = .ok units ∧ configured.unit ∈ units) := by
  obtain ⟨options, -, h⟩ := Traced.bind_result_ok_iff.1 h
  obtain ⟨registry, hdiscover, h⟩ := Traced.bind_result_ok_iff.1 h
  obtain ⟨validated, plan, kept, plugins, hvalid, hmade, hunits, -, hplugins, rfl⟩ :=
    Session.build_ok h
  have hoptions : ((OptionsInput.raw (.map options)).validate shippedTables
      (host.buildSession registry).normalizer.writing).result = .ok validated :=
    hvalid
  obtain rfl : registry = kept := Except.ok.inj hunits
  have hsound : registry.Sound := Registry.sound_of_discover hdiscover
  obtain ⟨-, hanswers⟩ := Plan.assemble_ok hplugins
  constructor
  · have hcall : (configured.unit.id, configured.options) ∈
        plugins.map fun configured => (configured.unit.id, configured.options) :=
      List.mem_map_of_mem hmem
    rw [map_of_answers hsound hanswers] at hcall
    exact .inl (noBracket_unitNames _ (calls_named hoptions hmade _ hcall))
  · obtain ⟨ofTables, htables, hbundles⟩ := exists_ofTables hsources bundles
    have hload : ofTables.loadModuleBundles host.sources bundles = .ok registry :=
      hbundles.symm.trans hdiscover
    have hunit := unit?_of_answers hsound hanswers configured hmem
    rcases Registry.mem_of_unit?_loadModuleBundles hload hunit with
      ⟨bundle, hbundle, units, hloaded, hmem⟩ | hbuiltIn
    · exact .inr ⟨bundle, hbundle, units, hloaded, hmem⟩
    · -- A unit of the tables is in a package without a bracket.
      obtain ⟨⟨⟩, hregistered, rfl⟩ := except_map_ok_iff.1 htables
      rw [Registry.registerAll_ok hregistered] at hbuiltIn
      rcases Registry.mem_of_unit?_replaceAll hbuiltIn with hmem | hnone
      · exact .inl (.inl (noBracket_package _ hmem))
      · cases hnone

end Host

/-! ## Tables -/

namespace ConfiguredUnit

/-- Units have rows, and only their ids and their packages may not be plain. -/
theorem exists_rows (console : Console) (number : Nat) (plugins : List ConfiguredUnit) :
    ∃ found, rows console number plugins = .ok found ∧
      ∀ row ∈ found, ∀ cell ∈ row, console.IsPlain cell ∨
        ∃ configured ∈ plugins, cell = configured.unit.id ∨ cell = configured.unit.package := by
  induction plugins generalizing number with
  | nil => exact ⟨[], rfl, fun _ hrow => absurd hrow List.not_mem_nil⟩
  | cons configured rest ih =>
    obtain ⟨others, hothers, hcells⟩ := ih (number + 1)
    obtain ⟨text, htext⟩ : ∃ text, Json.write .oneLine answerLevels
        (Json.sortKeys configured.options.toValue) = .ok text :=
      Json.exists_write (Json.hasJson_sortKeys configured.options.hasJson_toValue) (by decide)
    have hrow : row console number configured = .ok [writtenInt number, configured.unit.id,
        configured.unit.package, console.escape text] := by
      rw [row, htext]
      rfl
    refine ⟨_, except_bind_ok_iff.2 ⟨_, hrow, except_bind_ok_iff.2 ⟨others, hothers, rfl⟩⟩,
      List.forall_mem_cons.2 ⟨fun cell hcell => ?_, fun row hrow cell hcell => ?_⟩⟩
    · rcases List.mem_cons.1 hcell with rfl | hcell
      · exact .inl (.inl (noBracket_writtenInt _))
      rcases List.mem_cons.1 hcell with rfl | hcell
      · exact .inr ⟨configured, List.mem_cons_self, .inl rfl⟩
      rcases List.mem_cons.1 hcell with rfl | hcell
      · exact .inr ⟨configured, List.mem_cons_self, .inr rfl⟩
      · exact .inl (.inr ⟨text, List.mem_singleton.1 hcell⟩)
    · exact (hcells row hrow cell hcell).imp_right fun ⟨found, hfound, hcell⟩ =>
        ⟨found, List.mem_cons_of_mem _ hfound, hcell⟩

end ConfiguredUnit

/-- The rows of targets that are numbers fail at an integer out of range. -/
theorem targetRows_failsWith {targets : CanonicalTargets}
    (h : ∀ entry ∈ targets, ∃ n, Value.number? entry.2 = some n) :
    FailsWith (fun failure => failure = .integerTooLarge ∧ ∃ environment n,
      (environment, Value.int n) ∈ targets ∧ Binary64.ofInt? n = none) (targetRows targets) := by
  induction targets with
  | nil => exact failsWith_ok _
  | cons entry rest ih =>
    obtain ⟨environment, version⟩ := entry
    obtain ⟨⟨n, hn⟩, hrest⟩ := List.forall_mem_cons.1 h
    refine FailsWith.bind ?cell fun _ _ => FailsWith.bind ?rest fun _ _ => failsWith_ok _
    case cell =>
      refine FailsWith.map ?_ _
      obtain rfl : version = .ofNumber n := Value.eq_ofNumber_of_number? hn
      cases n with
      | float x => exact failsWith_ok _
      | int n =>
        show FailsWith _ (inRange (Binary64.ofInt? n))
        cases hrange : Binary64.ofInt? n with
        | some x => exact failsWith_ok _
        | none => exact failsWith_error ⟨rfl, environment, n, List.mem_cons_self, hrange⟩
    case rest =>
      exact (ih hrest).mono fun failure ⟨heq, name, n, hmem, hrange⟩ =>
        ⟨heq, name, n, List.mem_cons_of_mem _ hmem, hrange⟩

/-- Only the environments among the cells of targets may not be plain. -/
theorem mem_keys_of_targetRows (console : Console) {targets : CanonicalTargets}
    {found : List (List String)} (h : targetRows targets = .ok found) :
    ∀ row ∈ found, ∀ cell ∈ row, console.IsPlain cell ∨ cell ∈ targets.keys := by
  induction targets generalizing found with
  | nil =>
    rw [← Except.ok.inj h]
    exact fun _ hrow => absurd hrow List.not_mem_nil
  | cons entry rest ih =>
    obtain ⟨environment, version⟩ := entry
    obtain ⟨text, htext, h⟩ := except_bind_ok_iff.1 h
    obtain ⟨others, hothers, h⟩ := except_bind_ok_iff.1 h
    obtain ⟨x, -, rfl⟩ := except_map_ok_iff.1 htext
    rw [← Except.ok.inj h]
    refine List.forall_mem_cons.2 ⟨fun cell hcell => ?_, fun row hrow cell hcell =>
      (ih hothers row hrow cell hcell).imp_right (List.mem_cons_of_mem _)⟩
    rcases List.mem_cons.1 hcell with rfl | hcell
    · exact .inr List.mem_cons_self
    · rw [List.mem_singleton.1 hcell]
      exact .inl (.inl (noBracket_writtenGeneral x))

namespace Command

variable {host : Host} {arguments : SettingsArguments} {bundles : List String} {json : Bool}

/-- A preset that a command resolves is shown, or the failure escapes. -/
theorem presetItems_failsWith (hconsole : host.console.Lawful)
    (hsources : host.sources.entryPoints = []) {preset : Preset}
    (h : (host.resolvePreset arguments bundles).result = .ok preset) :
    FailsWith (Escapes host (.resolve arguments bundles json))
      (preset.items host.console json) := by
  cases json with
  | true =>
    obtain ⟨text, htext⟩ :=
      exists_answerText (Preset.hasJson_toValue (Host.hasJson_resolvePreset h _))
    rw [Preset.items, if_pos rfl, htext]
    exact failsWith_ok _
  | false =>
    obtain ⟨rows, hrows, hcells⟩ := ConfiguredUnit.exists_rows host.console 1 preset.plugins
    intro failure hfailure
    rcases except_bind_error_iff.1 hfailure with hbad | ⟨found, hfound, htable⟩
    · cases hrows.symm.trans hbad
    obtain rfl := Except.ok.inj (hrows.symm.trans hfound)
    obtain ⟨row, hrow, cell, hcell, hrefuses⟩ := hconsole.exists_refuses htable
    obtain ⟨configured, hmem, hshown⟩ := (hcells row hrow cell hcell).resolve_left hrefuses.markup
    obtain ⟨hid, hpackage⟩ := Host.plain_unit host.console hsources h hmem
    rcases hshown with rfl | rfl
    · exact absurd hid hrefuses.markup
    · obtain ⟨bundle, hbundle, units, hload, hunit⟩ := hpackage.resolve_left hrefuses.markup
      exact .package hbundle hload hunit hrefuses

/-- So are targets. -/
theorem targetItems_failsWith (hconsole : host.console.Lawful) {canonical : CanonicalTargets}
    (h : (host.resolveTargets arguments).result = .ok canonical) :
    FailsWith (Escapes host (.targets arguments json))
      (targetItems host.console canonical json) := by
  cases json with
  | true =>
    obtain ⟨text, htext⟩ := exists_answerText (Host.hasJson_resolveTargets h _)
    rw [targetItems, if_pos rfl, htext]
    exact failsWith_ok _
  | false =>
    have hsorted : ∀ entry, entry ∈ Entries.sorted canonical ↔ entry ∈ canonical :=
      fun entry => (Entries.sorted_perm canonical).mem_iff
    have hnumbers : ∀ entry ∈ Entries.sorted canonical, ∃ n, Value.number? entry.2 = some n :=
      fun entry hentry => Host.numbers_resolveTargets h entry ((hsorted entry).1 hentry)
    unfold targetItems
    rw [if_neg Bool.false_ne_true]
    split
    · obtain ⟨items, hitems⟩ := hconsole.notice
      rw [hitems]
      exact failsWith_ok _
    · intro failure hfailure
      rcases except_bind_error_iff.1 hfailure with hrows | ⟨rows, hrows, htable⟩
      · obtain ⟨rfl, environment, n, hmem, hrange⟩ := targetRows_failsWith hnumbers failure hrows
        exact .version h ((hsorted _).1 hmem) hrange
      · obtain ⟨row, hrow, cell, hcell, hrefuses⟩ := hconsole.exists_refuses htable
        have hkey := (mem_keys_of_targetRows host.console hrows row hrow cell hcell).resolve_left
          hrefuses.markup
        obtain ⟨entry, hentry, rfl⟩ := List.mem_map.1 hkey
        exact .environment h (List.mem_map_of_mem ((hsorted entry).1 hentry)) hrefuses

/-! ## Ends -/

variable {command : Command} {failure : Failure}

/-- A command that fails before it prints anything ends with a report, unless the failure
escapes. -/
theorem ends_of_error (hconsole : host.console.Lawful) (least : LogLevel)
    (h : (command.work (host.logging least)).result = .error failure)
    (hlines : (command.work (host.logging least)).lines = [])
    (hcause : command.ReportsOrEscapes (host.logging least) failure) :
    command.Ends (host.logging least) (command.run host least) := by
  obtain ⟨log, hrun⟩ := run_of_silent_error least h hlines
  cases hreported : command.reports failure.kind with
  | true =>
    obtain ⟨rest, hprinted⟩ := hconsole.error (command.lead ++ failure.message)
    have hreport : command.report host.console failure =
        .ok (host.console.printText ("error" ++ rest)) := by
      rw [report, if_pos hreported, hprinted]
    rw [hreport] at hrun
    rw [hrun]
    exact .reported h rfl hreport rfl rfl
  | false =>
    have hreport : command.report host.console failure = .error failure := by
      rw [report, if_neg (by rw [hreported]; exact Bool.false_ne_true)]
    rw [hreport] at hrun
    rw [hrun]
    exact .escaped (hcause.resolve_left (by rw [hreported]; exact Bool.false_ne_true)) rfl rfl

/-- A command that has an answer shows it, unless a failure escapes. -/
theorem ends_of_answer {answer : Except Failure (List ScreenItem)} (least : LogLevel)
    (h : (command.work (host.logging least)).result = .ok answer)
    (hanswer : FailsWith (command.Escapes (host.logging least)) answer) :
    command.Ends (host.logging least) (command.run host least) := by
  cases answer with
  | ok items =>
    obtain ⟨log, hrun⟩ := run_of_ok least h
    rw [hrun]
    exact .answered rfl rfl
  | error failure =>
    have hrun : (command.run host least).status = 1 ∧
        (command.run host least).escaped = some failure := by
      unfold run
      dsimp only
      rw [h]
      exact ⟨rfl, rfl⟩
    exact .escaped (hanswer failure rfl) hrun.1 hrun.2

/-- Without entry points, a command that shows targets or a preset ends with its answer, or with
nothing on the screen but one report of an error, unless a failure escapes for one of the known
causes. -/
theorem run_ends (host : Host) (command : Command) (least : LogLevel)
    (hcommand : command.settings?.isSome = true) (hsources : host.sources.entryPoints = [])
    (hreader : ReadsLikeToml host.settings.reader) (hconsole : host.console.Lawful) :
    command.Ends (host.logging least) (command.run host least) := by
  have hlogged : ReadsLikeToml (host.logging least).settings.reader := hreader
  have hprints : (host.logging least).console.Lawful := hconsole
  have hnone : (host.logging least).sources.entryPoints = [] := hsources
  cases command with
  | list bundles => cases hcommand
  | targets arguments json =>
    cases hresolve : ((host.logging least).resolveTargets arguments).result with
    | ok canonical =>
      exact ends_of_answer least (Traced.bind_result_ok_iff.2 ⟨canonical, hresolve, rfl⟩)
        (targetItems_failsWith hprints hresolve)
    | error failure =>
      exact ends_of_error hconsole least (Traced.bind_result_error_iff.2 (.inl hresolve))
        ((lines_work_targets _ _ _).trans (Host.lines_resolveTargets _ _))
        (reportsOrEscapes rfl (Host.resolveTargets_failsWith hlogged failure hresolve))
  | resolve arguments bundles json =>
    cases hresolve : ((host.logging least).resolvePreset arguments bundles).result with
    | ok preset =>
      exact ends_of_answer least (Traced.bind_result_ok_iff.2 ⟨preset, hresolve, rfl⟩)
        (presetItems_failsWith hprints hnone hresolve)
    | error failure =>
      exact ends_of_error hconsole least (Traced.bind_result_error_iff.2 (.inl hresolve))
        ((lines_work_resolve _ _ _ _).trans (Host.lines_resolvePreset_of_error hresolve))
        (Host.resolvePreset_failsWith hnone hlogged failure hresolve)

/-- A host without any files or a runtime. -/
def bareHost : Host where
  settings := { disk := fun _ => .missing, directory := Path.ofText ".", reader := Toml.read }
  runtime := .missing
  console := terminal

/-- A target argument without a value is reported, and nothing else is shown. -/
theorem bareHost_run_ends : ∃ rest,
    ((Command.resolve { targets := ["chrome"] } [] false).run bareHost .warning).screen =
      bareHost.console.printText ("error" ++ rest) := by
  have hfails : ((Command.resolve { targets := ["chrome"] } [] false).run bareHost .warning).status
      = 1 ∧ ((Command.resolve { targets := ["chrome"] } [] false).run bareHost .warning).escaped
      = none := by
    decide +kernel
  rcases run_ends bareHost (.resolve { targets := ["chrome"] } [] false) .warning rfl rfl
      Toml.readsLikeToml terminal_lawful with
    ⟨hstatus, -⟩ | ⟨-, -, -, hscreen, -⟩ | ⟨-, -, hescaped⟩
  · rw [hfails.1] at hstatus
    cases hstatus
  · exact ⟨_, hscreen⟩
  · rw [hfails.2] at hescaped
    cases hescaped

/-! ## A version out of range -/

/-- A target argument for an integer out of range is not resolved. -/
theorem resolveTargets_of_range {argument environment text : String} {n : Int}
    (hnone : discoverSettings host.settings.reader host.settings.disk host.settings.directory none =
      .ok none)
    (hsplit : splitTarget argument = .ok (environment, text))
    (hplain : environment ∉ shorthandKeys)
    (hvalue : targetValue environment text = .ok (.int n)) (hrange : Binary64.ofInt? n = none) :
    (host.resolveTargets { targets := [argument] }).result = .error .integerTooLarge := by
  have hbrowsers : environment ≠ browsersKey :=
    fun h => hplain (h ▸ List.mem_cons_self)
  have hgiven : readTargetArguments [argument] = .ok [(environment, .int n)] := by
    simp only [readTargetArguments, addTargets, hsplit, hvalue, Bind.bind, Except.bind,
      if_neg hbrowsers]
    rfl
  have hlayer : SettingsArguments.layer { targets := [argument] } =
      .ok [(targetsKey, .map [(environment, .int n)])] := by
    simp only [SettingsArguments.layer, SettingsArguments.targetsOption, hgiven, Except.map,
      Bind.bind, Except.bind]
    rfl
  have hgather : (host.settings.gather { targets := [argument] }).result =
      .ok [(targetsKey, .map [(environment, .int n)])] :=
    Traced.bind_result_ok_iff.2 ⟨none, hnone, Traced.bind_result_ok_iff.2 ⟨[], rfl,
      Traced.bind_result_ok_iff.2 ⟨_, hlayer, rfl⟩⟩⟩
  refine Host.resolveTargets_of_constraint hgather hplain ?_
  unfold readConstraint
  rw [if_neg fun h => Bool.false_ne_true h.2]
  show (inRange (Binary64.ofInt? n)).map _ = _
  rw [hrange]
  rfl

/-- A one with 309 zeros behind it. -/
def hugeDigits : List Char :=
  '1' :: List.replicate 309 '0'

/-- Arguments for such a version. -/
def hugeVersion : SettingsArguments where
  targets := [String.ofList ("chrome".toList ++ '=' :: hugeDigits)]

/-- Whether a value is an integer out of range. -/
def isOutOfRange : Value → Bool
  | .int n => (Binary64.ofInt? n).isNone
  | _ => false

theorem exists_int_of_isOutOfRange {value : Value} (h : isOutOfRange value = true) :
    ∃ n, value = .int n ∧ Binary64.ofInt? n = none := by
  cases value with
  | int n => exact ⟨n, rfl, Option.isNone_iff_eq_none.1 h⟩
  | _ => cases h

/-- The digits write an integer out of range. -/
theorem targetValue_hugeDigits :
    ∃ n, targetValue "chrome" (String.ofList hugeDigits) = .ok (.int n) ∧
      Binary64.ofInt? n = none := by
  have hvalue : ((Json.readValue (2 * hugeDigits.length + 2) Json.maxNesting
      hugeDigits).toOption.any fun found => isOutOfRange found.1 && found.2.isEmpty) = true := by
    decide +kernel
  obtain ⟨⟨value, left⟩, hfound, hboth⟩ := (Option.any_eq_true _ _).1 hvalue
  obtain ⟨hrange, hleft⟩ := Bool.and_eq_true_iff.1 hboth
  obtain ⟨n, rfl, hnone⟩ := exists_int_of_isOutOfRange hrange
  obtain rfl := List.isEmpty_iff.1 hleft
  have hread : Json.read (String.ofList hugeDigits) = .ok (.int n) := by
    have hbody : Json.skipSpace hugeDigits = hugeDigits := rfl
    rw [Json.read, Json.readWithin, String.toList_ofList, hbody, ok_of_toOption hfound]
    rfl
  exact ⟨n, by rw [targetValue, hread]; rfl, hnone⟩

/-- The failure at such a version escapes, with nothing on the screen. -/
theorem run_escapes :
    ((Command.targets hugeVersion true).run bareHost .warning).status = 1 ∧
    ((Command.targets hugeVersion true).run bareHost .warning).screen = [] ∧
    ((Command.targets hugeVersion true).run bareHost .warning).escaped =
      some .integerTooLarge := by
  obtain ⟨n, hvalue, hrange⟩ := targetValue_hugeDigits
  have hsplit : splitTarget (String.ofList ("chrome".toList ++ '=' :: hugeDigits)) =
      .ok ("chrome", String.ofList hugeDigits) := by
    rw [splitTarget, String.toList_ofList]
    rfl
  have hwork : ((Command.targets hugeVersion true).work (bareHost.logging .warning)).result =
      .error .integerTooLarge :=
    Traced.bind_result_error_iff.2
      (.inl (resolveTargets_of_range rfl hsplit (by decide) hvalue hrange))
  obtain ⟨log, hrun⟩ := run_of_silent_error .warning hwork
    ((lines_work_targets _ _ _).trans (Host.lines_resolveTargets _ _))
  rw [hrun]
  exact ⟨rfl, rfl, rfl⟩

end Command

end TransformPreset
