import TransformPreset.Proofs.Preset.ReportOnce

/-!
# Options that are validated beforehand

A build may be given options as a value or options that were validated before. Only the first way
holds names to those that the tables know. `PresetOptions.result_readTable` says that this is all
that the known names do: with them, reading a table that is valid without them either refuses the
unknown names of `include`, or else those of `exclude`, or answers with the same options.

So a build from such a value is refused for its unknown names, before anything of the session is
touched, or it is the build from the validated options (`Session.build_prevalidated`). A failure
that blames names has no other source within a build (`Session.build_sparesNames`).
-/

namespace TransformPreset

/-! ## Names that are held to known ones -/

/-- No names are unknown exactly if all of them are known. -/
theorem unknownNames_eq_nil_iff {known names : List String} :
    unknownNames (some known) names = [] ↔ ∀ name ∈ names, name ∈ known := by
  rw [← List.isEmpty_iff, isEmpty_unknownNames_iff]
  simp

/-- Holding an option of names to known ones refuses those that are not known, all at once, and
changes nothing else. -/
theorem readNames_known {options : Entries Value} {key : String} {names : List String}
    (h : readNames none options key = .ok names) (known : List String) :
    readNames (some known) options key =
      if unknownNames (some known) names = [] then .ok names
      else .error (.namesUnknown key (unknownNames (some known) names)) := by
  unfold readNames at h ⊢
  split at h
  · obtain rfl := Except.ok.inj h
    rfl
  · obtain ⟨read, hread, h⟩ := except_bind_ok_iff.1 h
    obtain rfl : read = names := Except.ok.inj h
    rw [hread]
    dsimp only [Bind.bind, Except.bind]
    simp only [List.isEmpty_iff]
    rfl
  · cases h

namespace PresetOptions

/-- The options with their names held to known ones: the unknown names of `include` are refused
before those of `exclude`. -/
def heldTo (known : List String) (options : PresetOptions) : Except Failure PresetOptions :=
  if unknownNames (some known) options.included ≠ [] then
    .error (.namesUnknown "include" (unknownNames (some known) options.included))
  else if unknownNames (some known) options.excluded ≠ [] then
    .error (.namesUnknown "exclude" (unknownNames (some known) options.excluded))
  else .ok options

/-- Options of known names are held to them as they are. -/
theorem heldTo_of_known {known : List String} {options : PresetOptions}
    (h : ∀ name ∈ options.included ++ options.excluded, name ∈ known) :
    options.heldTo known = .ok options := by
  obtain ⟨hincluded, hexcluded⟩ := List.forall_mem_append.1 h
  rw [heldTo, if_neg (not_not_intro (unknownNames_eq_nil_iff.2 hincluded)),
    if_neg (not_not_intro (unknownNames_eq_nil_iff.2 hexcluded))]

/-- Options with unknown names of `include` are refused for these. -/
theorem heldTo_of_included {known : List String} {options : PresetOptions}
    (h : ∃ name ∈ options.included, name ∉ known) :
    options.heldTo known =
      .error (.namesUnknown "include" (unknownNames (some known) options.included)) := by
  obtain ⟨name, hname, hnot⟩ := h
  exact if_pos fun hnil => hnot (unknownNames_eq_nil_iff.1 hnil name hname)

/-- Options whose first unknown names are those of `exclude` are refused for these. -/
theorem heldTo_of_excluded {known : List String} {options : PresetOptions}
    (hincluded : ∀ name ∈ options.included, name ∈ known)
    (h : ∃ name ∈ options.excluded, name ∉ known) :
    options.heldTo known =
      .error (.namesUnknown "exclude" (unknownNames (some known) options.excluded)) := by
  obtain ⟨name, hname, hnot⟩ := h
  rw [heldTo, if_neg (not_not_intro (unknownNames_eq_nil_iff.2 hincluded)), if_pos]
  exact fun hnil => hnot (unknownNames_eq_nil_iff.1 hnil name hname)

/-- A table that is valid whatever its names are is read with known names as its options are held to
them. -/
theorem result_readTable {options : Entries Value} {validated : PresetOptions}
    (h : (readTable writing none options).result = .ok validated) (known : List String) :
    (readTable writing (some known) options).result = validated.heldTo known := by
  obtain ⟨hkeys, htargets, hincluded, hexcluded, hrest⟩ := readTable_ok_iff.1 h
  have hi := readNames_known hincluded known
  have he := readNames_known hexcluded known
  unfold heldTo
  by_cases hallIncluded : unknownNames (some known) validated.included = []
  · rw [if_pos hallIncluded] at hi
    rw [if_neg (not_not_intro hallIncluded)]
    by_cases hallExcluded : unknownNames (some known) validated.excluded = []
    · rw [if_pos hallExcluded] at he
      rw [if_neg (not_not_intro hallExcluded)]
      exact readTable_ok_iff.2 ⟨hkeys, htargets, hi, he, hrest⟩
    · rw [if_neg hallExcluded] at he
      rw [if_pos hallExcluded]
      unfold readTable
      dsimp only
      rw [hkeys, Traced.bind_ok htargets]
      exact Traced.bind_result_error_iff.2 (.inr ⟨_, hi, Traced.bind_result_error_iff.2 (.inl he)⟩)
  · rw [if_neg hallIncluded] at hi
    rw [if_pos hallIncluded]
    unfold readTable
    dsimp only
    rw [hkeys, Traced.bind_ok htargets]
    exact Traced.bind_result_error_iff.2 (.inl hi)

/-- So is a value. -/
theorem result_read {given : Value} {validated : PresetOptions}
    (h : (read writing none given).result = .ok validated) (known : List String) :
    (read writing (some known) given).result = validated.heldTo known := by
  unfold read at h ⊢
  split
  · rename_i hblank
    rw [if_pos hblank] at h
    exact result_readTable h known
  · rename_i hblank
    rw [if_neg hblank] at h
    cases given with
    | map options => exact result_readTable h known
    | _ => cases h

end PresetOptions

/-! ## Failures that blame names -/

/-- Whether a failure blames names that are not known. -/
def Failure.blamesNames : Failure → Bool
  | .namesUnknown .. => true
  | _ => false

/-- Whether a failure does not. -/
def Failure.SparesNames (failure : Failure) : Prop :=
  failure.blamesNames = false

/-- A failure of other kinds than that of wrong options blames no names. -/
theorem Failure.sparesNames_of_ofKind {kinds : List Kind} {failure : Failure}
    (h : failure.OfKind kinds) (hconfig : .config ∉ kinds) : failure.SparesNames := by
  cases failure with
  | namesUnknown option names => exact absurd h hconfig
  | _ => rfl

/-- A failure that shows a value blames no names if it does not without the value. -/
theorem Value.sparesNames_showing (levels : Nat) (value : Value) {failure : Failure}
    (h : failure.SparesNames) :
    (value.showing levels failure).SparesNames := by
  unfold showing
  cases hobstacle : value.obstacle? levels with
  | none => exact h
  | some obstacle => rcases eq_of_obstacle? value hobstacle with rfl | rfl <;> rfl

namespace TargetSpec

/-- A table of targets that is refused blames no names. -/
theorem readEntries_sparesNames (spec : TargetSpec) (entries : Entries Value) :
    FailsWith Failure.SparesNames (spec.readEntries writing entries).result := by
  refine readEntries_failsWith_of spec ?browsers ?electron ?constraint
  case browsers => exact fun _ _ _ => rfl
  case electron =>
    rintro key value failure - (_ | _)
    · rfl
    · exact value.sparesNames_showing _ rfl
  case constraint =>
    rintro key value failure - (_ | _)
    · rfl
    · exact value.sparesNames_showing _ rfl

end TargetSpec

/-- Comparing targets with a capability blames no names. -/
theorem requiredFor_sparesNames (canonical : CanonicalTargets) (capability : Entries Value) :
    FailsWith Failure.SparesNames (requiredFor writing canonical capability) := by
  have hversions : FailsWith Failure.SparesNames (checkVersions writing canonical) := by
    induction canonical with
    | nil => exact failsWith_ok _
    | cons entry rest ih =>
      rw [checkVersions]
      split
      · exact failsWith_error (Value.sparesNames_showing _ _ rfl)
      · exact ih
  have hlacks : FailsWith Failure.SparesNames (someLacks capability canonical) := by
    clear hversions
    induction canonical with
    | nil => exact failsWith_ok _
    | cons entry rest ih =>
      refine FailsWith.bind ?_ fun found _ => ?_
      · unfold lacks
        split
        · exact failsWith_ok _
        · exact failsWith_ok _
        · split
          · exact failsWith_ok _
          · exact failsWith_error rfl
      · cases found with
        | true => exact failsWith_ok _
        | false => exact ih
  unfold requiredFor
  split
  · exact failsWith_ok _
  · exact hversions.bind fun _ _ => hlacks

/-- What is provided from outside, when it is called, blames no names. -/
theorem Provided.called_sparesNames (provided : Provided) :
    FailsWith Failure.SparesNames provided.called := by
  cases provided with
  | procedure => exact failsWith_error rfl
  | raising raised => exact failsWith_error rfl
  | bundle _ | unit _ | function _ | value _ => exact failsWith_ok _

namespace Session

variable {session : Session} {given : Value} {validated : PresetOptions}

/-- Failures that blame names only if the outside world of a session itself answers so. -/
def SparesNames (session : Session) (failure : Failure) : Prop :=
  failure.SparesNames ∨ session.nodeVersion.result = .error failure ∨
    ∃ queries, session.resolve queries = .error failure

/-- Resolving targets blames no names but those that the outside world does. -/
theorem resolveSpec_sparesNames (session : Session) (spec : TargetSpec) :
    FailsWith session.SparesNames (session.normalizer.resolveSpec spec).result := by
  intro failure h
  rcases session.normalizer.resolveSpec_failsWith spec failure h with hkind | houtside
  · exact .inl (Failure.sparesNames_of_ofKind hkind (by decide))
  · exact .inr houtside

/-- Nor does a selection for canonical targets. -/
theorem selectRequired_sparesNames (session : Session) (targets : CanonicalTargets)
    (table : Entries (Entries Value)) :
    FailsWith session.SparesNames
      (selectRequired session.normalizer (.map targets) table).result := by
  induction table with
  | nil => exact failsWith_ok _
  | cons entry rest ih =>
    refine Traced.failsWith_bind (Traced.failsWith_bind ?_ fun canonical _ => ?_) fun _ _ =>
      Traced.failsWith_bind ih fun _ _ => failsWith_ok _
    · unfold comparableTargets
      dsimp only
      split
      · exact Traced.failsWith_bind
          (fun failure h => .inl (TargetSpec.readEntries_sparesNames _ _ failure h))
          fun spec _ => session.resolveSpec_sparesNames spec
      · exact failsWith_ok _
    · exact fun failure h => .inl (requiredFor_sparesNames canonical entry.2 failure h)

/-- Nor does making a plan of validated options. -/
theorem ofOptions_sparesNames (session : Session) (options : PresetOptions) :
    FailsWith session.SparesNames
      (Plan.ofOptions session.tables session.normalizer options).result := by
  refine Traced.failsWith_bind (session.resolveSpec_sparesNames _) fun targets _ =>
    Traced.failsWith_bind (failsWith_ok _) fun _ _ => Traced.failsWith_bind ?_ fun _ _ =>
      Traced.failsWith_bind ?_ fun _ _ => failsWith_ok _
  · refine Traced.failsWith_bind (session.selectRequired_sparesNames _ _) fun required _ => ?_
    rw [composeTransformations_result]
    exact failsWith_ok _
  · unfold Plan.selectPolyfills
    split
    · refine Traced.failsWith_bind (session.selectRequired_sparesNames _ _) fun required _ =>
        Traced.failsWith_bind ?_ fun _ _ => failsWith_ok _
      rw [composePolyfills_result]
      exact failsWith_ok _
    · exact failsWith_ok _

/-- Nor does announcing a plan. -/
theorem announce_sparesNames (session : Session) (plan : Plan) :
    FailsWith Failure.SparesNames (session.announce plan).2.result := by
  rw [announce_snd]
  split
  · refine (plan.printReport_noForm session.tables session.writing).mono fun failure h => ?_
    rcases h with rfl | rfl | rfl <;> rfl
  · exact failsWith_ok _

/-- Nor does finding the registry. -/
theorem units_sparesNames (session : Session) :
    FailsWith Failure.SparesNames session.units.2 := by
  have hregister : ∀ (units : List NamedUnit) (registry : Registry),
      FailsWith Failure.SparesNames (registry.registerAll units).2 := by
    intro units
    induction units with
    | nil => exact fun registry => failsWith_ok _
    | cons unit rest ih =>
      intro registry
      unfold Registry.registerAll Registry.register
      split
      · exact ih _
      · rename_i failure h
        split at h
        · rw [← Except.error.inj h]
          exact failsWith_error rfl
        · cases h
  have hannounced : ∀ (entryPoints : List Provided) (registry : Registry),
      FailsWith Failure.SparesNames (registry.loadEntryPoints entryPoints).2 := by
    intro entryPoints
    induction entryPoints with
    | nil => exact fun registry => failsWith_ok _
    | cons provided rest ih =>
      intro registry
      unfold Registry.loadEntryPoints
      split
      · exact ih _
      · exact failsWith_error rfl
      · rename_i failure hfailure
        exact failsWith_error (provided.called_sparesNames failure hfailure)
  have hdiscover : FailsWith Failure.SparesNames
      (Registry.discover session.tables session.sources []) :=
    ((hregister _ _).map _).bind fun ofTables _ =>
      ((hannounced _ _).map _).bind fun _ _ => failsWith_ok _
  unfold units
  split
  · exact failsWith_ok _
  · split
    · exact failsWith_ok _
    · rename_i failure h
      exact failsWith_error (hdiscover failure h)

/-- Nor does looking up the units of a plan. -/
theorem finish_sparesNames (session : Session) (plan : Plan) (registry : Registry) :
    FailsWith Failure.SparesNames (session.finish plan registry).result := by
  have hrequire : ∀ id, FailsWith Failure.SparesNames (registry.require id) := by
    intro id
    unfold Registry.require
    split
    · exact failsWith_ok _
    · exact failsWith_error rfl
  refine Traced.failsWith_bind (FailsWith.bind ?modules fun _ _ =>
    FailsWith.bind ?transformations fun _ _ => FailsWith.bind ?polyfills fun _ _ =>
      failsWith_ok _) fun _ _ => failsWith_ok _
  case modules =>
    unfold Plan.moduleUnits
    split
    · exact failsWith_ok _
    · split
      · exact failsWith_error rfl
      · exact (hrequire _).bind fun _ _ => failsWith_ok _
  case transformations =>
    induction plan.transformations with
    | nil => exact failsWith_ok _
    | cons name rest ih =>
      exact (hrequire _).bind fun _ _ => ih.bind fun _ _ => failsWith_ok _
  case polyfills =>
    unfold Plan.polyfillUnits
    split
    · exact failsWith_ok _
    · exact (hrequire _).bind fun _ _ => failsWith_ok _

/-- A build from validated options blames no names but those that the outside world does. -/
theorem build_sparesNames (session : Session) (options : PresetOptions) :
    FailsWith session.SparesNames (session.build (.validated options)).2.result := by
  rw [build_snd]
  refine Traced.failsWith_bind (session.ofOptions_sparesNames options) fun plan _ => ?_
  have hafter : FailsWith Failure.SparesNames ((session.announce plan).2 >>= fun _ =>
      Traced.of session.units.2 >>= session.finish plan).result :=
    Traced.failsWith_bind (session.announce_sparesNames plan) fun _ _ =>
      Traced.failsWith_bind session.units_sparesNames fun registry _ =>
        session.finish_sparesNames plan registry
  exact fun failure h => .inl (hafter failure h)

/-! ## Builds from options that were validated beforehand -/

/-- A build that is refused for names of an option that are not known: the failure shows all of
them, the session stays as it was, and nothing is printed. -/
structure RefusesNames (session : Session) (input : OptionsInput) (option : String)
    (names : List String) : Prop where
  /-- The failure names the option and the names. -/
  failure : (session.build input).2.result = .error (.namesUnknown option names)
  /-- It is one of wrong options. -/
  kind : (Failure.namesUnknown option names).kind = .config
  /-- Its message lists the names in their order. -/
  message : (Failure.namesUnknown option names).message =
    "invalid option: the plugins/built-ins " ++ ", ".intercalate (names.map Failure.marked) ++
      " passed to " ++ Failure.marked option ++ " are not valid"
  /-- The session stays as it was. -/
  unchanged : (session.build input).1 = session
  /-- Nothing is printed. -/
  lines : (session.build input).2.lines = []

/-- How a build from a value goes along with one from the options that the value was validated to
without any known names. -/
structure BuildsAsValidated (session : Session) (given : Value) (validated : PresetOptions) :
    Prop where
  /-- Unknown names of `include` are refused, whatever `exclude` holds. -/
  included : (∃ name ∈ validated.included, name ∉ session.tables.knownNames) →
    session.RefusesNames (.raw given) "include"
      (validated.included.filter fun name => decide (name ∉ session.tables.knownNames))
  /-- Unknown names of `exclude` are refused if `include` has none. -/
  excluded : (∀ name ∈ validated.included, name ∈ session.tables.knownNames) →
    (∃ name ∈ validated.excluded, name ∉ session.tables.knownNames) →
    session.RefusesNames (.raw given) "exclude"
      (validated.excluded.filter fun name => decide (name ∉ session.tables.knownNames))
  /-- If all names are known, both builds have the same outcome, print the same lines, and leave the
  same session. -/
  known : (∀ name ∈ validated.included ++ validated.excluded, name ∈ session.tables.knownNames) →
    (session.build (.raw given)).2.result = (session.build (.validated validated)).2.result ∧
    (session.build (.raw given)).2.lines = (session.build (.validated validated)).2.lines ∧
    (session.build (.raw given)).1 = (session.build (.validated validated)).1
  /-- A build is refused for names only if some are unknown, unless it is the release resolver or
  the running runtime that fails so. -/
  blames : ∀ option names,
    (session.build (.raw given)).2.result = .error (.namesUnknown option names) →
    (∃ name ∈ validated.included ++ validated.excluded, name ∉ session.tables.knownNames) ∨
      session.nodeVersion.result = .error (.namesUnknown option names) ∨
      ∃ queries, session.resolve queries = .error (.namesUnknown option names)

/-- The names that are not known, as a filter. -/
theorem unknownNames_eq_filter (known names : List String) :
    unknownNames (some known) names = names.filter fun name => decide (name ∉ known) := by
  unfold unknownNames
  simp

/-- Builds whose plans come to the same, with the same lines, come to the same, with the same
lines. -/
theorem build_congr {input other : OptionsInput}
    (hresult : (Plan.make session.tables session.normalizer input).result =
      (Plan.make session.tables session.normalizer other).result)
    (hlines : (Plan.make session.tables session.normalizer input).lines =
      (Plan.make session.tables session.normalizer other).lines) :
    (session.build input).2.result = (session.build other).2.result ∧
    (session.build input).2.lines = (session.build other).2.lines ∧
    (session.build input).1 = (session.build other).1 := by
  cases hplan : (Plan.make session.tables session.normalizer other).result with
  | error failure =>
    rw [build_of_plan_error hplan, build_of_plan_error (hresult.trans hplan)]
    exact ⟨rfl, hlines, rfl⟩
  | ok plan =>
    have hplan' := hresult.trans hplan
    refine ⟨?result, ?lines, ?session⟩
    case result => rw [build_snd, build_snd, Traced.bind_ok hplan, Traced.bind_ok hplan']
    case lines =>
      rw [lines_build, lines_build, printed_of_plan_ok hplan, printed_of_plan_ok hplan', hlines]
    case session =>
      unfold build
      dsimp only
      rw [hplan, hplan']

/-- A value whose options cannot be held to the known names is refused as they are. -/
theorem refusesNames_of_heldTo
    (h : (PresetOptions.read session.writing none given).result = .ok validated)
    {option : String} {names : List String}
    (hheld : validated.heldTo session.tables.knownNames = .error (.namesUnknown option names)) :
    session.RefusesNames (.raw given) option names := by
  have hread : ((OptionsInput.raw given).validate session.tables session.writing).result =
      .error (.namesUnknown option names) :=
    (PresetOptions.result_read h _).trans hheld
  have hplan : Plan.make session.tables session.normalizer (.raw given) =
      ⟨((OptionsInput.raw given).validate session.tables session.writing).events,
        .error (.namesUnknown option names)⟩ := by
    unfold Plan.make
    exact Traced.bind_error hread
  have hbuild := build_of_plan_error (congrArg Traced.result hplan)
  refine ⟨by rw [hbuild], rfl, rfl, by rw [hbuild], ?_⟩
  rw [hbuild, hplan]
  exact (OptionsInput.validate_onlyLogs session.tables _ (.raw given)).silent.lines_eq_nil

/-- A value whose options can be held to the known names is built as the options are. -/
theorem build_of_heldTo (h : (PresetOptions.read session.writing none given).result = .ok validated)
    (hheld : validated.heldTo session.tables.knownNames = .ok validated) :
    (session.build (.raw given)).2.result = (session.build (.validated validated)).2.result ∧
    (session.build (.raw given)).2.lines = (session.build (.validated validated)).2.lines ∧
    (session.build (.raw given)).1 = (session.build (.validated validated)).1 := by
  have hread : ((OptionsInput.raw given).validate session.tables session.writing).result =
      .ok validated :=
    (PresetOptions.result_read h _).trans hheld
  have hmake : Plan.make session.tables session.normalizer (.validated validated) =
      Plan.ofOptions session.tables session.normalizer validated := by
    unfold Plan.make
    exact pure_bind _ _
  -- Validation comes first and prints nothing; from there on both plans are made alike.
  refine build_congr ?_ ?_
  · rw [hmake, make_eq, Traced.bind_ok hread]
  · rw [hmake]
    exact (OptionsInput.validate_onlyLogs session.tables _ (.raw given)).silent.lines_bind hread

/-- A build from a value goes as the one from the options that it was validated to beforehand, once
all names in them are known, and is refused for the unknown ones otherwise. -/
theorem build_prevalidated (session : Session) (given : Value) (validated : PresetOptions)
    (h : (PresetOptions.read session.writing none given).result = .ok validated) :
    session.BuildsAsValidated given validated where
  included hunknown := by
    rw [← unknownNames_eq_filter]
    exact refusesNames_of_heldTo h (PresetOptions.heldTo_of_included hunknown)
  excluded hincluded hunknown := by
    rw [← unknownNames_eq_filter]
    exact refusesNames_of_heldTo h (PresetOptions.heldTo_of_excluded hincluded hunknown)
  known hknown := build_of_heldTo h (PresetOptions.heldTo_of_known hknown)
  blames option names hfailure := by
    by_cases hknown : ∀ name ∈ validated.included ++ validated.excluded,
        name ∈ session.tables.knownNames
    · -- The build is the one from validated options, which holds no names to known ones.
      rw [(build_of_heldTo h (PresetOptions.heldTo_of_known hknown)).1] at hfailure
      rcases session.build_sparesNames validated _ hfailure with hspares | houtside
      · cases hspares
      · exact .inr houtside
    · push Not at hknown
      exact .inl hknown

/-- Options for one browser, with names to exclude. -/
def excluding (names : List String) : Value :=
  .map [("targets", .map [("browsers", .text "chrome 50")]),
    ("exclude", .list (names.map .text))]

/-- In a shipped session two names that no table has are refused together, around one that a table
has; without them the build goes as from options that were validated beforehand. -/
theorem shipped_prevalidated :
    (shipped 18).RefusesNames (.raw (excluding ["es9.map", "transform-regenerator", "no-name"]))
      "exclude" ["es9.map", "no-name"] ∧
    ((shipped 18).build (.raw (excluding ["transform-regenerator"]))).2.result =
      ((shipped 18).build (.validated {
        targets := { browsers := some ["chrome 50"] },
        excluded := ["transform-regenerator"] })).2.result :=
  ⟨(build_prevalidated (shipped 18) (excluding ["es9.map", "transform-regenerator", "no-name"])
      { targets := { browsers := some ["chrome 50"] },
        excluded := ["es9.map", "transform-regenerator", "no-name"] } rfl).excluded
      (by simp) ⟨"no-name", by simp, by decide⟩,
    ((build_prevalidated (shipped 18) (excluding ["transform-regenerator"])
      { targets := { browsers := some ["chrome 50"] },
        excluded := ["transform-regenerator"] } rfl).known (by decide)).1⟩

end Session

end TransformPreset
