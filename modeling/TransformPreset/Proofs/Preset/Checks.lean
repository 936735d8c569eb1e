import TransformPreset.Proofs.Names
import TransformPreset.Proofs.Preset.Options
import TransformPreset.Proofs.Target.Checks

/-!
# The language of options

Which tables are options of a preset, said without the reader: a row of eight checks
(`optionChecks`), first of the names of all options and then of one option after the other. The
reader makes exactly these checks, in their order (`PresetOptions.readTable_decides`), so a table is
read if it passes all of them, and otherwise the first one that does not pass says what is wrong.
In which order the options are listed makes no difference (`PresetOptions.readTable_perm`).
-/

namespace TransformPreset

/-! ## Checks of options -/

/-- A value that names a capability: a text that is not blank. -/
def IsName (value : Value) : Prop :=
  ∃ name, value = .text name ∧ ∃ c ∈ name.toList, isBlank c = false

/-- How options are refused that are unknown: all of them are reported, in rising order. -/
inductive KeysRefusal (keys : List String) : Failure → Prop
  /-- Some keys are no options. -/
  | unknown {names : List String}
    (hnames : IsSorted (keys.filter fun key => key ∉ optionKeys) names)
    (hsome : ∃ key ∈ keys, key ∉ optionKeys) : KeysRefusal keys (.unknownOptions names)

/-- The check of the names of all options. -/
def keysCheck (keys : List String) : Check where
  passes := ∀ key ∈ keys, key ∈ optionKeys
  refuses := KeysRefusal keys
  not_passes := by
    rintro _ ⟨-, key, hkey, hunknown⟩ hall
    exact hunknown (hall key hkey)
  unique := by
    rintro _ _ ⟨hnames, -⟩ ⟨hothers, -⟩
    rw [hnames.unique hothers]

/-- The check of targets: null, a specification, or a table with checks of its entries. -/
def targetsCheck (writing : Writing) : Value → Check
  | .null | .spec _ => .always
  | .map targets => .ofRow (targets.map (targetCheck writing))
  | _ => .demand False .targetsOptionNotTable

/-- The check of an item of an option of names. -/
def nameCheck (key : String) (item : Value × Nat) : Check :=
  .demand (IsName item.1) (.nameBlank key item.2)

/-- The check that names are known, if known names are given. -/
def knownCheck (known? : Option (List String)) (key : String) (names : List String) : Check :=
  .demand (∀ known, known? = some known → ∀ name ∈ names, name ∈ known)
    (.namesUnknown key (unknownNames known? names))

/-- The check of an option of names: a list of names, with checks of its items from the first one
on, that are known. -/
def namesCheck (known? : Option (List String)) (key : String) : Value → Check
  | .list items =>
    .ofRow (items.zipIdx.map (nameCheck key) ++
      [knownCheck known? key (items.filterMap Value.text?)])
  | _ => .demand False (.namesNotList key)

/-- The check of a switch. -/
def switchCheck (key : String) (value : Value) : Check :=
  .demand (∃ b, value = .bool b) (.optionNotBool key)

/-- The check of a module type: false, or the name of one. -/
def moduleTypeCheck (value : Value) : Check :=
  .demand (value = .bool false ∨ ∃ moduleType : ModuleType, value = .text moduleType.name)
    .moduleTypeUnknown

/-- The check of an option, which may be absent. -/
def optionCheck (options : Entries Value) (key : String) (check : Value → Check) : Check :=
  match options.get? key with
  | some value => check value
  | none => .always

/-- The checks of options, in their order. -/
def optionChecks (writing : Writing) (known? : Option (List String)) (options : Entries Value) :
    List Check :=
  [keysCheck options.keys,
    optionCheck options "targets" (targetsCheck writing),
    optionCheck options "include" (namesCheck known? "include"),
    optionCheck options "exclude" (namesCheck known? "exclude"),
    optionCheck options "use_built_ins" (switchCheck "use_built_ins"),
    optionCheck options "module_type" moduleTypeCheck,
    optionCheck options "loose" (switchCheck "loose"),
    optionCheck options "debug" (switchCheck "debug")]

/-! ## Refused options -/

/-- An option that is refused is there. -/
theorem exists_of_optionCheck_refuses {options : Entries Value} {key : String}
    {check : Value → Check} {failure : Failure}
    (h : (optionCheck options key check).refuses failure) :
    ∃ value, options.get? key = some value ∧ (check value).refuses failure := by
  unfold optionCheck at h
  cases hget : options.get? key with
  | none =>
    rw [hget] at h
    exact h.elim
  | some value =>
    rw [hget] at h
    exact ⟨value, rfl, h⟩

/-- An option of names is refused for its configuration. -/
theorem kind_of_namesCheck_refuses {known? : Option (List String)} {key : String} {value : Value}
    {failure : Failure} (h : (namesCheck known? key value).refuses failure) :
    failure.kind = .config := by
  cases value with
  | list items =>
    obtain ⟨check, hcheck, hrefuses⟩ := h.exists_mem
    rcases List.mem_append.1 hcheck with hitem | hknown
    · obtain ⟨item, -, rfl⟩ := List.mem_map.1 hitem
      exact congrArg Failure.kind hrefuses.1
    · obtain rfl := List.mem_singleton.1 hknown
      exact congrArg Failure.kind hrefuses.1
  | _ => exact congrArg Failure.kind h.1

/-! ## Reading one option -/

/-- Reading a switch is its check. -/
theorem readBool_decides (options : Entries Value) (key : String) :
    Decides [optionCheck options key (switchCheck key)] (readBool options key) := by
  unfold readBool optionCheck
  cases options.get? key with
  | none => exact Check.decides_always _
  | some value =>
    cases value with
    | bool b => exact Check.demand_ok ⟨b, rfl⟩ _ _
    | _ => exact Check.demand_error nofun _

/-- A module type is found by its name, and under no other one. -/
theorem ofName?_eq_some_iff {name : String} {moduleType : ModuleType} :
    ModuleType.ofName? name = some moduleType ↔ moduleType.name = name := by
  constructor
  · intro h
    have hname := List.find?_some h
    exact eq_of_beq hname
  · rintro rfl
    cases moduleType <;> decide

/-- Reading a module type is its check. -/
theorem readModuleType_decides (options : Entries Value) :
    Decides [optionCheck options "module_type" moduleTypeCheck] (readModuleType options) := by
  unfold readModuleType optionCheck
  cases options.get? "module_type" with
  | none => exact Check.decides_always _
  | some value =>
    cases value with
    | bool b =>
      cases b with
      | false => exact Check.demand_ok (.inl rfl) _ _
      | true => exact Check.demand_error (by simp) _
    | text name =>
      dsimp only
      split
      · rename_i moduleType hname
        exact Check.demand_ok (.inr ⟨moduleType, by rw [ofName?_eq_some_iff.1 hname]⟩) _ _
      · rename_i hnone
        refine Check.demand_error ?_ _
        rintro (h | ⟨moduleType, h⟩)
        · cases h
        · obtain rfl := Value.text.inj h
          rw [ofName?_eq_some_iff.2 rfl] at hnone
          cases hnone
    | _ => exact Check.demand_error (by simp) _

/-- A text is a name exactly if it is not blank. -/
theorem isName_text_iff {name : String} :
    IsName (.text name) ↔ name.toList.all isBlank = false := by
  rw [List.all_eq_false]
  constructor
  · rintro ⟨_, h, c, hc, hblank⟩
    obtain rfl := Value.text.inj h
    exact ⟨c, hc, by simp [hblank]⟩
  · rintro ⟨c, hc, hblank⟩
    exact ⟨name, rfl, c, hc, by simpa using hblank⟩

/-- Reading the items of a list of names makes their checks, from the first one on. -/
theorem readNameList_decides (key : String) (index : Nat) (items : List Value) :
    Decides ((items.zipIdx index).map (nameCheck key)) (readNameList key index items) := by
  induction items generalizing index with
  | nil => exact decides_ok allPass_nil _
  | cons item rest ih =>
    rw [List.zipIdx_cons, List.map_cons]
    -- A first item that is refused ends the reading, so the checks of the others are not made.
    have hrefused (hitem : ¬IsName item) : Decides
        (nameCheck key (item, index) :: (rest.zipIdx (index + 1)).map (nameCheck key))
          (.error (.nameBlank key index) : Except Failure (List String)) :=
      decides_error (firstRefuses_cons.2 (.inl ⟨rfl, hitem⟩))
    cases item with
    | text name =>
      rw [readNameList]
      split
      · rename_i hblank
        exact hrefused fun h => Bool.false_ne_true ((isName_text_iff.1 h).symm.trans hblank)
      · rename_i hblank
        have hname : IsName (.text name) := isName_text_iff.2 (Bool.eq_false_iff.2 hblank)
        exact ((ih (index + 1)).map _).behind hname
    | _ => exact hrefused (by simp [IsName])

/-- Holding names to known ones is their check. -/
theorem unknownNames_decides (known? : Option (List String)) (key : String) (names : List String) :
    Decides [knownCheck known? key names]
      (if (unknownNames known? names).isEmpty then .ok names
        else .error (.namesUnknown key (unknownNames known? names))) := by
  split
  · rename_i hempty
    exact Check.demand_ok (isEmpty_unknownNames_iff.1 hempty) _ _
  · rename_i hsome
    exact Check.demand_error (mt isEmpty_unknownNames_iff.2 hsome) _

/-- Reading an option of names is its check. -/
theorem readNames_decides (known? : Option (List String)) (options : Entries Value)
    (key : String) :
    Decides [optionCheck options key (namesCheck known? key)] (readNames known? options key) := by
  unfold readNames optionCheck
  cases options.get? key with
  | none => exact Check.decides_always _
  | some value =>
    cases value with
    | list items =>
      refine ((readNameList_decides key 0 items).bind fun names hnames => ?_).ofRow
      obtain rfl := readNameList_ok hnames
      exact unknownNames_decides known? key _
    | _ => exact Check.demand_error id _

/-- Reading the targets among the options is their check. -/
theorem readTargets_decides (writing : Writing) (options : Entries Value) :
    Decides [optionCheck options "targets" (targetsCheck writing)]
      (readTargets writing options).result := by
  unfold readTargets optionCheck
  cases options.get? "targets" with
  | none => exact Check.decides_always _
  | some value =>
    cases value with
    | null => exact Check.decides_always _
    | spec given => exact Check.decides_always _
    | map targets => exact (TargetSpec.readEntries_decides writing {} targets).ofRow
    | _ => exact Check.demand_error id _

/-! ## Reading all options -/

namespace PresetOptions

/-- Reading a table of options makes its checks, in their order. -/
theorem readTable_decides (writing : Writing) (known? : Option (List String))
    (options : Entries Value) :
    Decides (optionChecks writing known? options) (readTable writing known? options).result := by
  have hunknown : (options.keys.filter fun key => !optionKeys.contains key) =
      options.keys.filter fun key => key ∉ optionKeys :=
    List.filter_congr fun key _ => by simp
  have hkeys : (options.keys.filter fun key => key ∉ optionKeys) = [] ↔
      ∀ key ∈ options.keys, key ∈ optionKeys := by
    simp [List.filter_eq_nil_iff]
  unfold readTable
  dsimp only
  rw [hunknown]
  split
  · rename_i hsome
    rw [Bool.not_eq_true', List.isEmpty_eq_false_iff, Ne, hkeys] at hsome
    refine decides_error (firstRefuses_cons.2 (.inl (.unknown (isSorted_sortNames _) ?_)))
    simpa using hsome
  · rename_i hnone
    rw [Bool.not_eq_true', List.isEmpty_eq_false_iff, Ne, Decidable.not_not,
      hkeys] at hnone
    simp only [Traced.bind_result, Traced.of_result, Traced.pure_result]
    refine Decides.behind ?_ hnone
    -- Each option is read once the checks before it have passed.
    exact (readTargets_decides writing options).bind fun targets _ =>
      (readNames_decides known? options "include").bind fun included _ =>
      (readNames_decides known? options "exclude").bind fun excluded _ =>
      (readBool_decides options "use_built_ins").bind fun useBuiltIns _ =>
      (readModuleType_decides options).bind fun moduleType _ =>
      (readBool_decides options "loose").bind fun loose _ =>
      (readBool_decides options "debug").bind fun debug _ => decides_ok allPass_nil _

/-- The checks of options refuse for the configuration only, but for those of targets. -/
theorem refuses_of_mem_optionChecks {check : Check}
    (hcheck : check ∈ optionChecks writing known? options)
    {failure : Failure} (h : check.refuses failure) :
    failure.kind = .config ∨ ∃ targets, options.get? "targets" = some (.map targets) ∧
      FirstRefuses (targets.map (targetCheck writing)) failure := by
  simp only [optionChecks, List.mem_cons, List.not_mem_nil, or_false] at hcheck
  rcases hcheck with rfl | rfl | rfl | rfl | rfl | rfl | rfl | rfl
  case inl =>
    obtain ⟨-, -⟩ := h
    exact .inl rfl
  case inr.inl =>
    obtain ⟨value, hget, h⟩ := exists_of_optionCheck_refuses h
    cases value with
    | map targets => exact .inr ⟨targets, hget, h⟩
    | null | spec _ => exact h.elim
    | _ => exact .inl (congrArg Failure.kind h.1)
  all_goals
    obtain ⟨value, -, h⟩ := exists_of_optionCheck_refuses h
    first
    | exact .inl (kind_of_namesCheck_refuses h)
    | exact .inl (congrArg Failure.kind h.1)

/-- What is expected of the failures of configurations, and of those of a table of targets, is
expected of every failure of options. -/
theorem readTable_failsWith_of {expected : Failure → Prop}
    (hconfig : ∀ failure, failure.kind = .config → expected failure)
    (htargets : ∀ targets, options.get? "targets" = some (.map targets) →
      FailsWith expected (TargetSpec.readEntries writing {} targets).result) :
    FailsWith expected (readTable writing known? options).result := by
  refine (readTable_decides writing known? options).failsWith fun check hcheck failure h => ?_
  rcases refuses_of_mem_optionChecks hcheck h with hkind | ⟨targets, hget, hrefuses⟩
  · exact hconfig failure hkind
  · exact htargets targets hget failure
      (((TargetSpec.readEntries_decides writing {} targets).error_iff failure).2 hrefuses)

/-- Reading options fails in no other ways than reading targets. -/
theorem read_failsWith (writing : Writing) (known? : Option (List String)) (raw : Value) :
    FailsWith (Failure.OfKind TargetSpec.readingKinds) (read writing known? raw).result := by
  have htable : ∀ options, FailsWith (Failure.OfKind TargetSpec.readingKinds)
      (readTable writing known? options).result := fun options =>
    readTable_failsWith_of (fun failure hkind => Failure.ofKind_of_eq .config hkind (by decide))
      fun targets _ => TargetSpec.readEntries_failsWith writing {} targets
  unfold read
  split
  · exact htable []
  · split
    · exact htable _
    · exact failsWith_ofKind .config rfl (by decide)

/-- Options that are listed in another order are read in the same way. -/
theorem readTable_perm (writing : Writing) (known? : Option (List String))
    {options others : Entries Value} (hperm : options.Perm others)
    (hdistinct : options.keys.Nodup) :
    readTable writing known? others = readTable writing known? options := by
  have hget := Entries.get?_perm hperm hdistinct
  have hkeys : options.keys.Perm others.keys := hperm.map Prod.fst
  have hunknown := hkeys.filter fun key => !optionKeys.contains key
  unfold readTable readTargets readNames readBool readModuleType
  simp only [hget, hunknown.isEmpty_eq, sortNames_perm hunknown]

/-- A table of options is read exactly if it passes its checks, and refused as the first check that
does not pass. In which order the options are listed makes no difference. -/
theorem read_decides (writing : Writing) (known? : Option (List String)) (options : Entries Value)
    (hdistinct : options.keys.Nodup) :
    Decides (optionChecks writing known? options) (read writing known? (.map options)).result ∧
      ∀ others, options.Perm others →
        read writing known? (.map others) = read writing known? (.map options) := by
  constructor
  · rw [read_map]
    exact readTable_decides writing known? options
  · intro others hperm
    rw [read_map, read_map]
    exact readTable_perm writing known? hperm hdistinct

/-- Two switches that are none, the second one of which is checked first. -/
def twoSwitches : Entries Value :=
  [("debug", .int 1), ("loose", .int 1)]

/-- They are refused in the order of the checks, in whichever order they are listed. -/
theorem read_twoSwitches :
    twoSwitches.keys.Nodup ∧
      (read {} none (.map twoSwitches)).result = .error (.optionNotBool "loose") ∧
      read {} none (.map twoSwitches.reverse) = read {} none (.map twoSwitches) :=
  ⟨by decide, rfl, (read_decides {} none twoSwitches (by decide)).2 _ (List.reverse_perm _).symm⟩

/-- A target that is refused refuses options that hold nothing else. -/
theorem readTable_target_error {key : String} {value : Value} {failure : Failure}
    (h : (targetCheck writing (key, value)).refuses failure) :
    (readTable writing known? [("targets", .map [(key, value)])]).result = .error failure := by
  refine ((readTable_decides _ _ _).error_iff _).2 (firstRefuses_cons.2 (.inr ⟨?_, ?_⟩))
  · show ∀ key ∈ ["targets"], key ∈ optionKeys
    decide
  · have htargets : (optionCheck [("targets", .map [(key, value)])] "targets"
        (targetsCheck writing)).refuses failure := firstRefuses_cons.2 (.inl h)
    exact firstRefuses_cons.2 (.inl htargets)

/-- The least integer that has too many digits to be written. -/
def longInteger : Int :=
  Int.ofNat (Nat.pow 10 maxDigits)

/-- Not every number is an electron version, and browsers may not be anything: an integer that
cannot be written is refused, and so is what cannot be warned of. -/
theorem read_limits :
    (read {} none (.map [("targets", .map [("electron", .int longInteger)])])).result =
        .error .integerTooLong ∧
      (read {} none (.map [("targets", .map [("browsers", .nested 980)])])).result =
        .error .nestedTooDeeply := by
  have hsize : longInteger.natAbs = Nat.pow 10 maxDigits := Int.natAbs_natCast _
  have helectron : ElectronRefusal {} (.int longInteger) .integerTooLong :=
    .tooLong (Nat.le_of_eq hsize.symm)
  have hbrowsers : (targetCheck {} ("browsers", .nested 980)).refuses .nestedTooDeeply :=
    ⟨rfl, not_not_intro ⟨rfl, Value.queries?_nested 980, Value.obstacle?_nested 979 0⟩⟩
  rw [read_map, read_map]
  exact ⟨readTable_target_error helectron, readTable_target_error hbrowsers⟩

end PresetOptions

end TransformPreset
