import TransformPreset.Preset.Plan
import TransformPreset.Proofs.Target.Reading

/-!
# Options as given and as validated

The options of a preset are given as a value or validated before. Either way they name what is
included and excluded, and say whether polyfills are selected and whether transformations may be
loose. Validation keeps all of that (`OptionsInput.validate_ok`), and names that it accepts from a
value are known to the tables (`included_subset_knownNames`).
-/

namespace TransformPreset

/-! ## Options as given -/

namespace Value

/-- An option of a value that is a table. -/
def option? (value : Value) (key : String) : Option Value :=
  match value with
  | .map options => Entries.get? options key
  | _ => none

/-- The names that an option lists. -/
def namesAt (value : Value) (key : String) : List String :=
  match value.option? key with
  | some (.list items) => items.filterMap text?
  | _ => []

/-- Whether an option is switched on. -/
def switchAt (value : Value) (key : String) : Bool :=
  match value.option? key with
  | some (.bool b) => b
  | _ => false

/-- The module type that a value of options asks for: CommonJS modules unless it says otherwise. -/
def moduleType (value : Value) : Option ModuleType :=
  match value.option? "module_type" with
  | none => some .commonjs
  | some (.text name) => ModuleType.ofName? name
  | some _ => none

end Value

namespace OptionsInput

/-- The names that are given to be included. -/
def included : OptionsInput → List String
  | .raw value => value.namesAt "include"
  | .validated options => options.included

/-- The names that are given to be excluded. -/
def excluded : OptionsInput → List String
  | .raw value => value.namesAt "exclude"
  | .validated options => options.excluded

/-- Whether polyfills are asked for. -/
def useBuiltIns : OptionsInput → Bool
  | .raw value => value.switchAt "use_built_ins"
  | .validated options => options.useBuiltIns

/-- The module type that is asked for, if any. -/
def moduleType : OptionsInput → Option ModuleType
  | .raw value => value.moduleType
  | .validated options => options.moduleType

/-- The specification of targets that is given as such, if one is. -/
def spec? : OptionsInput → Option TargetSpec
  | .raw value =>
    match value.option? "targets" with
    | some (.spec target) => some target
    | _ => none
  | .validated options => some options.targets

/-- Whether transformations are allowed to be loose. -/
def loose : OptionsInput → Bool
  | .raw value => value.switchAt "loose"
  | .validated options => options.loose

end OptionsInput

/-! ## Reading one option -/

/-- A list of names that was read holds nothing but its names. -/
theorem readNameList_ok {key : String} {index : Nat} {items : List Value} {names : List String}
    (h : readNameList key index items = .ok names) : items.filterMap Value.text? = names := by
  induction items generalizing index names with
  | nil =>
    rw [readNameList, Except.ok.injEq] at h
    exact h
  | cons item rest ih =>
    cases item with
    | text name =>
      rw [readNameList] at h
      split at h
      · cases h
      · obtain ⟨others, hothers, rfl⟩ := except_map_ok_iff.1 h
        exact congrArg (name :: ·) (ih hothers)
    | _ => cases h

/-- No names are unknown exactly if all of them are known, as far as known names are given. -/
theorem isEmpty_unknownNames_iff {known? : Option (List String)} {names : List String} :
    (unknownNames known? names).isEmpty = true ↔
      ∀ known, known? = some known → ∀ name ∈ names, name ∈ known := by
  cases known? with
  | none => simp [unknownNames]
  | some known => simp [unknownNames]

/-- An option of names that was read lists its names, and all of them are known. -/
theorem readNames_ok {known? : Option (List String)} {options : Entries Value} {key : String}
    {names : List String} (h : readNames known? options key = .ok names) :
    names = (Value.map options).namesAt key ∧
      ∀ known, known? = some known → ∀ name ∈ names, name ∈ known := by
  unfold readNames at h
  unfold Value.namesAt Value.option?
  dsimp only
  split at h
  · rename_i hget
    rw [hget]
    obtain rfl := Except.ok.inj h
    exact ⟨rfl, fun _ _ _ hname => absurd hname List.not_mem_nil⟩
  · rename_i items hget
    rw [hget]
    obtain ⟨read, hread, h⟩ := except_bind_ok_iff.1 h
    dsimp only at h
    split at h
    · rename_i hunknown
      obtain rfl := Except.ok.inj h
      exact ⟨(readNameList_ok hread).symm, isEmpty_unknownNames_iff.1 hunknown⟩
    · cases h
  · cases h

/-- A switch that was read is on exactly if it is given as on. -/
theorem readBool_ok {options : Entries Value} {key : String} {b : Bool}
    (h : readBool options key = .ok b) : b = (Value.map options).switchAt key := by
  unfold readBool at h
  unfold Value.switchAt Value.option?
  dsimp only
  split at h
  · rename_i hget
    rw [hget]
    exact (Except.ok.inj h).symm
  · rename_i on hget
    rw [hget]
    exact (Except.ok.inj h).symm
  · cases h

/-- A module type that was read is the one that is given. -/
theorem readModuleType_ok {options : Entries Value} {moduleType : Option ModuleType}
    (h : readModuleType options = .ok moduleType) :
    moduleType = (Value.map options).moduleType := by
  unfold readModuleType at h
  unfold Value.moduleType Value.option?
  dsimp only
  split at h
  · rename_i hget
    rw [hget]
    exact (Except.ok.inj h).symm
  · rename_i hget
    rw [hget]
    exact (Except.ok.inj h).symm
  · rename_i name hget
    rw [hget]
    dsimp only
    split at h
    · rename_i type htype
      rw [htype]
      exact (Except.ok.inj h).symm
    · cases h
  · cases h

/-! ## Reading all options -/

namespace PresetOptions

variable {writing : Writing} {known? : Option (List String)} {validated : PresetOptions}

/-- A table of options is read exactly if it has no unknown option and each option is read. -/
theorem readTable_ok_iff {options : Entries Value} :
    (readTable writing known? options).result = .ok validated ↔
      (options.keys.filter fun key => !optionKeys.contains key) = [] ∧
      (readTargets writing options).result = .ok validated.targets ∧
      readNames known? options "include" = .ok validated.included ∧
      readNames known? options "exclude" = .ok validated.excluded ∧
      readBool options "use_built_ins" = .ok validated.useBuiltIns ∧
      readModuleType options = .ok validated.moduleType ∧
      readBool options "loose" = .ok validated.loose ∧
      readBool options "debug" = .ok validated.debug := by
  unfold readTable
  dsimp only
  by_cases hknown : (options.keys.filter fun key => !optionKeys.contains key) = []
  · rw [hknown]
    simp only [List.isEmpty_nil, Bool.not_true, Bool.false_eq_true, if_false, true_and,
      Traced.bind_result_ok_iff, Traced.of_result, Traced.pure_result, Except.ok.injEq]
    constructor
    · rintro ⟨targets, ht, included, hi, excluded, he, useBuiltIns, hu, moduleType, hm, loose, hl,
        debug, hd, rfl⟩
      exact ⟨ht, hi, he, hu, hm, hl, hd⟩
    · rintro ⟨ht, hi, he, hu, hm, hl, hd⟩
      exact ⟨_, ht, _, hi, _, he, _, hu, _, hm, _, hl, _, hd, rfl⟩
  · have hunknown := List.isEmpty_eq_false_iff.2 hknown
    simp only [hunknown, hknown, Bool.not_false, if_true, Traced.fail_result, false_and,
      reduceCtorEq]

/-- A value that is read as options is read as a table that has the options of the value. -/
theorem read_ok {raw : Value} (h : (read writing known? raw).result = .ok validated) :
    ∃ options, (readTable writing known? options).result = .ok validated ∧
      ∀ key, raw.option? key = options.get? key := by
  unfold read at h
  split at h
  · -- A blank value is read as the empty table; none of its options is there.
    rename_i hblank
    refine ⟨[], h, fun key => ?_⟩
    cases raw with
    | map options =>
      rw [Value.isBlankValue, List.isEmpty_iff] at hblank
      rw [hblank]
      rfl
    | _ => rfl
  · cases raw with
    | map options => exact ⟨options, h, fun _ => rfl⟩
    | _ => cases h

/-- The table that options are read from is the one that is given. -/
theorem read_map (writing : Writing) (known? : Option (List String)) (options : Entries Value) :
    read writing known? (.map options) = readTable writing known? options := by
  unfold read
  split
  · rename_i hblank
    rw [Value.isBlankValue, List.isEmpty_iff] at hblank
    rw [hblank]
  · rfl

/-- The targets that were read come from a table of targets, or they are the specification that was
given. -/
theorem readTargets_ok {options : Entries Value} {target : TargetSpec}
    (h : (readTargets writing options).result = .ok target) :
    target.IsRead ∨ options.get? "targets" = some (.spec target) := by
  unfold readTargets at h
  cases hget : options.get? "targets" with
  | none =>
    rw [hget] at h
    rw [← Except.ok.inj h]
    exact .inl ⟨writing, [], rfl⟩
  | some value =>
    rw [hget, Option.getD_some] at h
    cases value with
    | null =>
      rw [← Except.ok.inj h]
      exact .inl ⟨writing, [], rfl⟩
    | map entries => exact .inl ⟨writing, entries, h⟩
    | spec given =>
      rw [← Except.ok.inj h]
      exact .inr rfl
    | _ => cases h

/-- A table of targets among the options is read. -/
theorem readTargets_map {options targets : Entries Value}
    (h : options.get? "targets" = some (.map targets)) :
    readTargets writing options = TargetSpec.read writing (.map targets) := by
  rw [readTargets, h]
  rfl

/-- Reading the targets among the options only writes log entries. -/
theorem readTargets_onlyLogs (writing : Writing) (options : Entries Value) :
    (readTargets writing options).OnlyLogs := by
  unfold readTargets
  split
  · exact Traced.onlyLogs_pure _
  · exact TargetSpec.read_onlyLogs _ _
  · exact Traced.onlyLogs_pure _
  · exact Traced.onlyLogs_fail _

/-- Reading options only writes log entries. -/
theorem readTable_onlyLogs (writing : Writing) (known? : Option (List String))
    (options : Entries Value) : (readTable writing known? options).OnlyLogs := by
  unfold readTable
  dsimp only
  split
  · exact Traced.onlyLogs_fail _
  · exact (readTargets_onlyLogs writing options).bind fun _ _ =>
      (Traced.onlyLogs_of _).bind fun _ _ =>
      (Traced.onlyLogs_of _).bind fun _ _ => (Traced.onlyLogs_of _).bind fun _ _ =>
        (Traced.onlyLogs_of _).bind fun _ _ => (Traced.onlyLogs_of _).bind fun _ _ =>
          (Traced.onlyLogs_of _).bind fun _ _ => Traced.onlyLogs_pure _

/-- Reading a value as options only writes log entries. -/
theorem read_onlyLogs (writing : Writing) (known? : Option (List String)) (raw : Value) :
    (read writing known? raw).OnlyLogs := by
  unfold read
  split
  · exact readTable_onlyLogs _ _ _
  · split
    · exact readTable_onlyLogs _ _ _
    · exact Traced.onlyLogs_fail _

/-- The names of an option are told by what the option is. -/
theorem namesAt_eq {raw : Value} {options : Entries Value}
    (h : ∀ key, raw.option? key = options.get? key) (key : String) :
    raw.namesAt key = (Value.map options).namesAt key := by
  unfold Value.namesAt
  rw [h key]
  rfl

/-- So is whether it is switched on. -/
theorem switchAt_eq {raw : Value} {options : Entries Value}
    (h : ∀ key, raw.option? key = options.get? key) (key : String) :
    raw.switchAt key = (Value.map options).switchAt key := by
  unfold Value.switchAt
  rw [h key]
  rfl

/-- So is the module type. -/
theorem moduleType_eq {raw : Value} {options : Entries Value}
    (h : ∀ key, raw.option? key = options.get? key) :
    raw.moduleType = (Value.map options).moduleType := by
  unfold Value.moduleType
  rw [h]
  rfl

end PresetOptions

/-! ## Validation -/

namespace OptionsInput

variable {tables : CapabilityTables} {writing : Writing} {input : OptionsInput}
  {options : PresetOptions}

/-- Validating options only writes log entries. -/
theorem validate_onlyLogs (tables : CapabilityTables) (writing : Writing) (input : OptionsInput) :
    (input.validate tables writing).OnlyLogs := by
  cases input with
  | raw value => exact PresetOptions.read_onlyLogs _ _ _
  | validated given => exact Traced.onlyLogs_pure _

/-- Validation keeps what is given. -/
theorem validate_ok (h : (input.validate tables writing).result = .ok options) :
    options.included = input.included ∧ options.excluded = input.excluded ∧
      options.useBuiltIns = input.useBuiltIns ∧ options.moduleType = input.moduleType ∧
      options.loose = input.loose := by
  cases input with
  | validated given =>
    obtain rfl := Except.ok.inj h
    exact ⟨rfl, rfl, rfl, rfl, rfl⟩
  | raw value =>
    obtain ⟨table, htable, hoption⟩ := PresetOptions.read_ok h
    obtain ⟨-, -, hi, he, hu, hm, hl, -⟩ := PresetOptions.readTable_ok_iff.1 htable
    refine ⟨?_, ?_, ?_, ?_, ?_⟩
    · exact (readNames_ok hi).1.trans (PresetOptions.namesAt_eq hoption _).symm
    · exact (readNames_ok he).1.trans (PresetOptions.namesAt_eq hoption _).symm
    · exact (readBool_ok hu).trans (PresetOptions.switchAt_eq hoption _).symm
    · exact (readModuleType_ok hm).trans (PresetOptions.moduleType_eq hoption).symm
    · exact (readBool_ok hl).trans (PresetOptions.switchAt_eq hoption _).symm

/-- The validated targets are what the targets of a table of options are read as. -/
theorem readTargets_of_validate {given : Entries Value}
    (h : ((raw (.map given)).validate tables writing).result = .ok options) :
    (readTargets writing given).result = .ok options.targets := by
  rw [validate, PresetOptions.read_map] at h
  exact (PresetOptions.readTable_ok_iff.1 h).2.1

/-- The validated targets were read from a table, unless they are given as a specification. -/
theorem isRead_or_spec? (h : (input.validate tables writing).result = .ok options) :
    options.targets.IsRead ∨ input.spec? = some options.targets := by
  cases input with
  | validated given =>
    obtain rfl := Except.ok.inj h
    exact .inr rfl
  | raw value =>
    obtain ⟨table, htable, hoption⟩ := PresetOptions.read_ok h
    obtain ⟨-, htargets, -⟩ := PresetOptions.readTable_ok_iff.1 htable
    refine (PresetOptions.readTargets_ok htargets).imp_right fun hgiven => ?_
    rw [spec?, hoption, hgiven]

/-- Included names that were read from a value are known to the tables. -/
theorem included_subset_knownNames {value : Value}
    (h : ((raw value).validate tables writing).result = .ok options) :
    ∀ name ∈ options.included, name ∈ tables.knownNames := by
  obtain ⟨table, htable, -⟩ := PresetOptions.read_ok h
  obtain ⟨-, -, hi, -⟩ := PresetOptions.readTable_ok_iff.1 htable
  exact (readNames_ok hi).2 _ rfl

end OptionsInput

end TransformPreset
