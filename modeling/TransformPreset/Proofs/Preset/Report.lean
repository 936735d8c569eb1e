import TransformPreset.Preset.Report
import TransformPreset.Proofs.Json.Writer
import TransformPreset.Proofs.Preset.Plan

/-!
# The lines of a report

A report is its lines, one after the other, up to the first that has no JSON form
(`Plan.printReport_eq`). So it is printed whole exactly if all that it shows has one, it fails as
the first line without one does, and it prints the lines before that and does nothing else
(`printLines`).

The versions that a table has are numbers, and the canonical targets are, if the outside world
answers with numbers. A number has a JSON form unless it is an integer that is too long, so such a
report fails for the length of an integer only (`Plan.printReport_numbers_failsWith`), and not at
all if neither the tables nor the outside world have such an integer (`Plan.MadeFrom.isWritten`).
-/

namespace TransformPreset

/-! ## What a report shows -/

/-- What is shown for the environments are numbers of the table, and null. -/
theorem isFlat_shownVersions (table : CapabilityTable) (targets : CanonicalTargets)
    (name : String) : ∀ entry ∈ shownVersions table targets name, Value.IsFlat entry.2 := by
  intro entry hentry
  obtain ⟨⟨environment, _⟩, -, rfl⟩ := List.mem_map.1 hentry
  dsimp only
  cases Entries.get? ((table.get? name).getD []) environment with
  | none => exact .inl rfl
  | some version => exact Value.isFlat_ofNumber version

/-! ## Lines that are printed while they can be written -/

/-- Prints lines up to the first that cannot be written. -/
def printLines : List (Except Failure String) → Traced Unit
  | [] => return ()
  | line :: rest => do
    printLine (← Traced.of line)
    printLines rest

/-- The lines before the first that cannot be written. -/
def writtenLines : List (Except Failure String) → List String
  | .ok text :: rest => text :: writtenLines rest
  | _ => []

section

variable {lines : List (Except Failure String)}

theorem printLines_append (lines more : List (Except Failure String)) :
    printLines (lines ++ more) = printLines lines >>= fun _ => printLines more := by
  induction lines with
  | nil => rfl
  | cons line rest ih =>
    rw [List.cons_append, printLines, printLines, ih]
    simp only [bind_assoc]

/-- All lines are printed exactly if all of them can be written. -/
theorem printLines_ok_iff :
    (printLines lines).result = .ok () ↔ ∀ line ∈ lines, ∃ text, line = .ok text := by
  induction lines with
  | nil => exact iff_of_true rfl fun _ hline => absurd hline List.not_mem_nil
  | cons line rest ih =>
    rw [List.forall_mem_cons, ← ih, printLines, Traced.bind_result_ok_iff]
    constructor
    · rintro ⟨text, htext, h⟩
      obtain ⟨-, -, h⟩ := Traced.bind_result_ok_iff.1 h
      exact ⟨⟨text, htext⟩, h⟩
    · rintro ⟨⟨text, htext⟩, h⟩
      exact ⟨text, htext, Traced.bind_result_ok_iff.2 ⟨(), rfl, h⟩⟩

/-- Printing lines fails as one of them does. -/
theorem printLines_failsWith {expected : Failure → Prop}
    (h : ∀ line ∈ lines, FailsWith expected line) :
    FailsWith expected (printLines lines).result := by
  induction lines with
  | nil => exact failsWith_ok _
  | cons line rest ih =>
    obtain ⟨hline, hrest⟩ := List.forall_mem_cons.1 h
    exact Traced.failsWith_bind hline fun _ _ =>
      Traced.failsWith_bind (failsWith_ok _) fun _ _ => ih hrest

/-- Lines are printed, and nothing else happens. -/
theorem printLines_onlyPrints (lines : List (Except Failure String)) :
    (printLines lines).OnlyPrints := by
  induction lines with
  | nil => exact Traced.onlyPrints_pure ()
  | cons line rest ih =>
    exact (Traced.onlyPrints_of _).bind fun _ => (Traced.onlyPrints_line _).bind fun _ => ih

/-- The lines before the first that cannot be written are printed. -/
theorem lines_printLines (lines : List (Except Failure String)) :
    (printLines lines).lines = writtenLines lines := by
  induction lines with
  | nil => rfl
  | cons line rest ih =>
    cases line with
    | error failure => rfl
    | ok text => exact congrArg (text :: ·) ih

/-- Lines that can be written are texts. -/
theorem exists_eq_map_ok (h : ∀ line ∈ lines, ∃ text, line = .ok text) :
    ∃ texts : List String, lines = texts.map .ok := by
  induction lines with
  | nil => exact ⟨[], rfl⟩
  | cons line rest ih =>
    obtain ⟨⟨text, rfl⟩, hrest⟩ := List.forall_mem_cons.1 h
    obtain ⟨texts, rfl⟩ := ih hrest
    exact ⟨text :: texts, rfl⟩

/-- Printing lines fails exactly as the first that cannot be written, after the lines before it. -/
theorem printLines_error_iff {failure : Failure} :
    (printLines lines).result = .error failure ↔
      ∃ rest, lines = (writtenLines lines).map .ok ++ .error failure :: rest := by
  induction lines with
  | nil =>
    refine iff_of_false (fun h => by cases h) ?_
    rintro ⟨rest, h⟩
    cases h
  | cons line rest ih =>
    cases line with
    | error other =>
      constructor
      · intro h
        obtain rfl := Except.error.inj h
        exact ⟨rest, rfl⟩
      · rintro ⟨more, h⟩
        obtain rfl := Except.error.inj (List.cons.inj h).1
        rfl
    | ok text =>
      simp only [writtenLines, List.map_cons, List.cons_append, List.cons.injEq, true_and, ← ih]
      exact Iff.rfl

/-- Lines that can be written are all printed. -/
theorem writtenLines_ok (texts : List String) : writtenLines (texts.map Except.ok) = texts := by
  induction texts with
  | nil => rfl
  | cons text rest ih => exact congrArg (text :: ·) ih

end

/-! ## The report as its lines -/

/-- The line of a report for a name. -/
def nameLine (writing : Writing) (table : CapabilityTable) (targets : CanonicalTargets)
    (name : String) : Except Failure String :=
  (Json.write .oneLine writing.levels (.map (shownVersions table targets name))).map
    fun versions => "  " ++ name ++ " " ++ versions

namespace Plan

/-- The lines of the report on a plan. -/
def reportLines (tables : CapabilityTables) (writing : Writing) (plan : Plan) :
    List (Except Failure String) :=
  [.ok "envpreset: `debug` option", .ok "\nUsing targets:",
    Json.write .lines writing.levels (.map plan.targets),
    .ok ("\nModules transform: " ++ ((plan.moduleType.map ModuleType.name).getD "false")),
    .ok "\nUsing plugins:"] ++
  plan.transformations.map (nameLine writing tables.plugins plan.targets) ++
  .ok "\nUsing polyfills:" ::
    (plan.polyfills.getD []).map (nameLine writing tables.builtIns plan.targets)

end Plan

variable {tables : CapabilityTables} {writing : Writing} {plan : Plan}

/-- The lines of names are printed one after the other. -/
theorem printNames_eq (writing : Writing) (table : CapabilityTable) (targets : CanonicalTargets)
    (names : List String) :
    printNames writing table targets names =
      printLines (names.map (nameLine writing table targets)) := by
  induction names with
  | nil => rfl
  | cons name rest ih =>
    rw [printNames, ih, List.map_cons, printLines, nameLine]
    cases Json.write .oneLine writing.levels (.map (shownVersions table targets name)) <;> rfl

/-- The line of a name can be written unless a version in it is an integer that is too long. -/
theorem exists_nameLine_iff {table : CapabilityTable} {targets : CanonicalTargets}
    {name : String} :
    (∃ line, nameLine writing table targets name = .ok line) ↔
      ∀ entry ∈ shownVersions table targets name, Value.isLong entry.2 = false := by
  rw [← Json.hasJson_map_iff (isFlat_shownVersions table targets name)]
  exact except_exists_map_ok_iff.trans Json.exists_write_iff

/-- The line of a name fails for the length of an integer only. -/
theorem nameLine_failsWith (table : CapabilityTable) (targets : CanonicalTargets) (name : String) :
    FailsWith (· = .integerTooLong) (nameLine writing table targets name) :=
  (Json.write_map_failsWith (isFlat_shownVersions table targets name)).map _

namespace Plan

/-- A report is printed line by line. -/
theorem printReport_eq (tables : CapabilityTables) (writing : Writing) (plan : Plan) :
    plan.printReport tables writing = printLines (plan.reportLines tables writing) := by
  unfold printReport reportLines
  simp only [printNames_eq, List.cons_append, List.nil_append, printLines, printLines_append]
  rfl

/-- Whether all that a report shows has a JSON form. -/
structure IsWritten (tables : CapabilityTables) (writing : Writing) (plan : Plan) : Prop where
  /-- The targets have one. -/
  targets : (Value.map plan.targets).HasJson (writing.levels + 1)
  /-- No version of a transformation that is shown is an integer that is too long. -/
  plugins : ∀ name ∈ plan.transformations, ∀ entry ∈ shownVersions tables.plugins plan.targets name,
    Value.isLong entry.2 = false
  /-- Nor is a version of a polyfill. -/
  builtIns : ∀ name ∈ plan.polyfills.getD [],
    ∀ entry ∈ shownVersions tables.builtIns plan.targets name, Value.isLong entry.2 = false

/-- A report is printed whole exactly if all that it shows has a JSON form. -/
theorem printReport_ok_iff :
    (plan.printReport tables writing).result = .ok () ↔ plan.IsWritten tables writing := by
  rw [printReport_eq, printLines_ok_iff, reportLines]
  simp only [List.forall_mem_append, List.forall_mem_cons, List.forall_mem_map, Except.ok.injEq,
    exists_eq', exists_nameLine_iff, Json.exists_write_iff, true_and]
  constructor
  · rintro ⟨⟨⟨htargets, -⟩, hplugins⟩, hbuiltIns⟩
    exact ⟨htargets, hplugins, hbuiltIns⟩
  · rintro ⟨htargets, hplugins, hbuiltIns⟩
    exact ⟨⟨⟨htargets, fun _ h => absurd h List.not_mem_nil⟩, hplugins⟩, hbuiltIns⟩

/-- The texts of a report that can be written: those of its targets and of its names in their
places. -/
theorem exists_of_reportLines {texts : List String}
    (h : plan.reportLines tables writing = texts.map .ok) :
    ∃ targets plugins polyfills,
      Json.write .lines writing.levels (.map plan.targets) = .ok targets ∧
      texts = ["envpreset: `debug` option", "\nUsing targets:", targets,
        "\nModules transform: " ++ ((plan.moduleType.map ModuleType.name).getD "false"),
        "\nUsing plugins:"] ++ plugins ++ "\nUsing polyfills:" :: polyfills ∧
      plan.transformations.map (nameLine writing tables.plugins plan.targets) = plugins.map .ok ∧
      (plan.polyfills.getD []).map (nameLine writing tables.builtIns plan.targets) =
        polyfills.map .ok := by
  unfold reportLines at h
  obtain ⟨start, rest, rfl, hstart, hrest⟩ := List.append_eq_map_iff.1 h
  obtain ⟨head, plugins, rfl, hhead, hplugins⟩ := List.append_eq_map_iff.1 hstart.symm
  obtain ⟨title, polyfills, rfl, htitle, hpolyfills⟩ := List.map_eq_cons_iff.1 hrest
  obtain ⟨targets, htargets, rfl⟩ : ∃ targets,
      Json.write .lines writing.levels (.map plan.targets) = .ok targets ∧
      head = ["envpreset: `debug` option", "\nUsing targets:", targets,
        "\nModules transform: " ++ ((plan.moduleType.map ModuleType.name).getD "false"),
        "\nUsing plugins:"] := by
    simp only [List.map_eq_cons_iff, List.map_eq_nil_iff] at hhead
    obtain ⟨_, _, rfl, hfirst, _, _, rfl, hsecond, targets, _, rfl, htargets, _, _, rfl, hfourth, _,
      _, rfl, hfifth, rfl⟩ := hhead
    refine ⟨targets, htargets.symm, ?_⟩
    rw [Except.ok.inj hfirst, Except.ok.inj hsecond, Except.ok.inj hfourth, Except.ok.inj hfifth]
  obtain rfl := Except.ok.inj htitle
  exact ⟨targets, plugins, polyfills, htargets, rfl, hplugins.symm, hpolyfills.symm⟩

/-- A report fails as writing its targets does, or for the length of an integer. -/
theorem printReport_failsWith (tables : CapabilityTables) (writing : Writing) (plan : Plan) :
    FailsWith (fun failure =>
      Json.write .lines writing.levels (.map plan.targets) = .error failure ∨
        failure = .integerTooLong) (plan.printReport tables writing).result := by
  have hnames : ∀ (table : CapabilityTable) (names : List String),
      ∀ line ∈ names.map (nameLine writing table plan.targets),
        FailsWith (· = .integerTooLong) line :=
    fun table _ => List.forall_mem_map.2 fun name _ => nameLine_failsWith table plan.targets name
  rw [printReport_eq]
  refine printLines_failsWith ?_
  simp only [reportLines, List.forall_mem_append, List.forall_mem_cons]
  refine ⟨⟨⟨failsWith_ok _, failsWith_ok _, fun failure h => .inl h, failsWith_ok _, failsWith_ok _,
    fun _ h => absurd h List.not_mem_nil⟩, ?_⟩, failsWith_ok _, ?_⟩
  · exact fun line hline => (hnames _ _ line hline).mono fun _ => .inr
  · exact fun line hline => (hnames _ _ line hline).mono fun _ => .inr

/-- A report fails for want of a JSON form only. -/
theorem printReport_noForm (tables : CapabilityTables) (writing : Writing) (plan : Plan) :
    FailsWith Json.NoForm (plan.printReport tables writing).result :=
  (printReport_failsWith tables writing plan).mono fun failure h =>
    h.elim (Json.write_failsWith _ _ _ failure) fun hlong => .inr (.inl hlong)

/-- A report on targets that are numbers fails for the length of an integer only. -/
theorem printReport_numbers_failsWith (tables : CapabilityTables) (writing : Writing)
    (h : ∀ entry ∈ plan.targets, ∃ n, Value.number? entry.2 = some n) :
    FailsWith (· = .integerTooLong) (plan.printReport tables writing).result :=
  (printReport_failsWith tables writing plan).mono fun failure hfailure =>
    hfailure.elim (Json.write_map_failsWith (fun entry hentry => .inr (h entry hentry)) failure) id

/-- A report is printed, and nothing else happens. -/
theorem printReport_onlyPrints (tables : CapabilityTables) (writing : Writing) (plan : Plan) :
    (plan.printReport tables writing).OnlyPrints := by
  rw [printReport_eq]
  exact printLines_onlyPrints _

/-- What is printed of a report are its lines before the first that cannot be written. -/
theorem lines_printReport (tables : CapabilityTables) (writing : Writing) (plan : Plan) :
    (plan.printReport tables writing).lines =
      writtenLines (plan.reportLines tables writing) := by
  rw [printReport_eq]
  exact lines_printLines _

end Plan

/-! ## Reports that can be printed whole -/

/-- Whether no version of a table is an integer that is too long to be written. -/
def CapabilityTable.IsShort (table : CapabilityTable) : Prop :=
  ∀ entry ∈ table, ∀ version ∈ entry.2, (Value.ofNumber version.2).isLong = false

/-- What is shown of a table of short versions is short. -/
theorem CapabilityTable.IsShort.shownVersions {table : CapabilityTable} (h : table.IsShort)
    (targets : CanonicalTargets) (name : String) :
    ∀ entry ∈ shownVersions table targets name, Value.isLong entry.2 = false := by
  intro entry hentry
  obtain ⟨⟨environment, value⟩, -, rfl⟩ := List.mem_map.1 hentry
  dsimp only
  cases hversion : Entries.get? ((table.get? name).getD []) environment with
  | none => rfl
  | some version =>
    cases hname : table.get? name with
    | none =>
      rw [hname] at hversion
      cases hversion
    | some capability =>
      rw [hname] at hversion
      exact h _ (Entries.mem_of_get? hname) _ (Entries.mem_of_get? hversion)

namespace Normalizer

variable {normalizer : Normalizer}

/-- A normalizer whose outside world answers with numbers that can be written. -/
structure Short (normalizer : Normalizer) : Prop where
  /-- The outside world answers with numbers. -/
  numeric : normalizer.Numeric
  /-- No chrome version of the table is an integer that is too long. -/
  electron : ∀ entry ∈ normalizer.electron, Value.isLong entry.2 = false
  /-- Nor is the version of the running runtime. -/
  nodeVersion : ∀ value, normalizer.nodeVersion.result = .ok value → value.isLong = false

/-- Whether numbers can be written does not depend on what else can. -/
theorem Short.withWriting (h : normalizer.Short) (writing : Writing) :
    ({ normalizer with writing } : Normalizer).Short :=
  ⟨⟨h.numeric.electron, h.numeric.nodeVersion⟩, h.electron, h.nodeVersion⟩

/-- If the outside world answers with numbers that can be written, canonical targets are such
numbers: what is read from a release has no more digits than an integer may have. -/
theorem resolveSpec_short {spec : TargetSpec} {canonical : CanonicalTargets}
    (h : (normalizer.resolveSpec spec).result = .ok canonical) (hshort : normalizer.Short) :
    ∀ entry ∈ canonical, Value.isLong entry.2 = false := by
  intro entry hentry
  rcases mem_resolveSpec h hentry with ⟨c, -, hversion⟩ | ⟨-, version, hchrome⟩ | ⟨-, n, hn, hread⟩
  · cases c with
    | current => exact hshort.nodeVersion _ hversion
    | version x =>
      rw [← Except.ok.inj hversion]
      rfl
  · obtain ⟨key, hkey⟩ := mem_of_chromeOfElectron hchrome
    exact hshort.electron (key, entry.2) hkey
  · rw [hn]
    exact hread

end Normalizer

/-- A report on a plan can be printed whole if neither the tables nor the outside world have an
integer that is too long. -/
theorem Plan.MadeFrom.isWritten {normalizer : Normalizer} {options : PresetOptions}
    (h : MadeFrom tables normalizer options plan) (hshort : normalizer.Short)
    (hplugins : tables.plugins.IsShort) (hbuiltIns : tables.builtIns.IsShort) (writing : Writing) :
    plan.IsWritten tables writing where
  targets := (Json.hasJson_map_iff fun entry hentry =>
      .inr (Normalizer.resolveSpec_numbers h.targets hshort.numeric entry hentry)).2
    (Normalizer.resolveSpec_short h.targets hshort)
  plugins _ _ := hplugins.shownVersions _ _
  builtIns _ _ := hbuiltIns.shownVersions _ _

end TransformPreset
