import TransformPreset.Proofs.Preset.Options

/-!
# Options that are read inside of one more call

What runs inside of one more call can write values of one level less. Reading options writes the
values of targets, in failures and in a warning, and nothing else. So inside of one more call it
comes to the same, or it fails for the depth of a value (`PresetOptions.read_inner`), and then there
is a target whose value can be written outside of the call, but not inside of it.
-/

namespace TransformPreset

variable {α β : Type} {cause causes : Prop}

/-! ## Outcomes that are the same unless something is too deep -/

/-- Whether the second of two outcomes is the first one, or, for a cause, that something is nested
too deeply. -/
def SameUnlessDeep (cause : Prop) (outer inner : Except Failure α) : Prop :=
  inner = outer ∨ inner = .error .nestedTooDeeply ∧ cause

namespace SameUnlessDeep

theorem refl (cause : Prop) (x : Except Failure α) : SameUnlessDeep cause x x :=
  .inl rfl

/-- A wider cause. -/
theorem mono {x y : Except Failure α} (h : SameUnlessDeep cause x y) (hcause : cause → causes) :
    SameUnlessDeep causes x y :=
  h.imp_right fun hdeep => ⟨hdeep.1, hcause hdeep.2⟩

/-- So are the outcomes of sequences whose steps have such outcomes. -/
theorem bind {x y : Traced α} {f g : α → Traced β} (hx : SameUnlessDeep cause x.result y.result)
    (hf : ∀ a, SameUnlessDeep cause (f a).result (g a).result) :
    SameUnlessDeep cause (x >>= f).result (y >>= g).result := by
  rw [Traced.bind_result, Traced.bind_result]
  rcases hx with heq | ⟨hdeep, hcause⟩
  · rw [heq]
    cases x.result with
    | ok a => exact hf a
    | error failure => exact refl _ _
  · rw [hdeep]
    exact .inr ⟨rfl, hcause⟩

end SameUnlessDeep

/-! ## Values -/

namespace Value

mutual

/-- With fewer levels the same hinders writing a value, or its depth does. -/
theorem obstacle?_of_le {few many : Nat} (h : few ≤ many) (value : Value) :
    value.obstacle? few = value.obstacle? many ∨ value.obstacle? few = some .nestedTooDeeply := by
  cases value with
  | list items =>
    rw [obstacle?, obstacle?]
    by_cases hfew : few = 0
    · exact .inr (if_pos hfew)
    · rw [if_neg hfew, if_neg (by omega)]
      exact itemObstacle?_of_le (Nat.sub_le_sub_right h 1) items
  | map entries =>
    rw [obstacle?, obstacle?]
    by_cases hfew : few = 0
    · exact .inr (if_pos hfew)
    · rw [if_neg hfew, if_neg (by omega)]
      exact entryObstacle?_of_le (Nat.sub_le_sub_right h 1) entries
  | _ => exact .inl rfl

/-- So it is for a list of values. -/
theorem itemObstacle?_of_le {few many : Nat} (h : few ≤ many) (items : List Value) :
    itemObstacle? few items = itemObstacle? many items ∨
      itemObstacle? few items = some .nestedTooDeeply := by
  cases items with
  | nil => exact .inl rfl
  | cons item rest =>
    rw [itemObstacle?, itemObstacle?]
    rcases obstacle?_of_le h item with hsame | hdeep
    · rw [hsame]
      cases item.obstacle? many with
      | some failure => exact .inl rfl
      | none => exact itemObstacle?_of_le h rest
    · rw [hdeep]
      exact .inr rfl

/-- So it is for entries. -/
theorem entryObstacle?_of_le {few many : Nat} (h : few ≤ many) (entries : List (String × Value)) :
    entryObstacle? few entries = entryObstacle? many entries ∨
      entryObstacle? few entries = some .nestedTooDeeply := by
  cases entries with
  | nil => exact .inl rfl
  | cons entry rest =>
    obtain ⟨name, value⟩ := entry
    rw [entryObstacle?, entryObstacle?]
    rcases obstacle?_of_le h value with hsame | hdeep
    · rw [hsame]
      cases value.obstacle? many with
      | some failure => exact .inl rfl
      | none => exact entryObstacle?_of_le h rest
    · rw [hdeep]
      exact .inr rfl

end

/-- Whether a value is too deep to be written inside of one more call only. -/
def IsTooDeepInside (writing : Writing) (value : Value) : Prop :=
  value.obstacle? writing.inner.levels = some .nestedTooDeeply ∧
    value.obstacle? writing.levels ≠ some .nestedTooDeeply

/-- The same hinders writing a value inside of one more call, unless it is too deep there only. -/
theorem obstacle?_inner (writing : Writing) (value : Value) :
    value.obstacle? writing.inner.levels = value.obstacle? writing.levels ∨
      value.IsTooDeepInside writing := by
  rcases obstacle?_of_le (Nat.sub_le writing.levels 1) value with hsame | hdeep
  · exact .inl hsame
  · by_cases houter : value.obstacle? writing.levels = some .nestedTooDeeply
    · exact .inl (hdeep.trans houter.symm)
    · exact .inr ⟨hdeep, houter⟩

/-- So a failure that shows the value is the same. -/
theorem sameUnlessDeep_showing (writing : Writing) (value : Value) (failure : Failure) :
    SameUnlessDeep (value.IsTooDeepInside writing)
      (.error (value.showing writing.levels failure) : Except Failure α)
      (.error (value.showing writing.inner.levels failure)) := by
  unfold showing
  rcases value.obstacle?_inner writing with hsame | hdeep
  · exact .inl (by rw [hsame])
  · exact .inr ⟨by rw [hdeep.1]; rfl, hdeep⟩

end Value

/-! ## Targets -/

/-- Queries are read as they are outside, or a warning of them is too deep. -/
theorem readBrowsers_inner (writing : Writing) (value : Value) :
    SameUnlessDeep (value.IsTooDeepInside writing) (readBrowsers writing value).result
      (readBrowsers writing.inner value).result := by
  unfold readBrowsers
  split
  · exact .refl _ _
  · exact .refl _ _
  · refine SameUnlessDeep.bind ?_ fun _ => .refl _ _
    unfold warnBrowsers Writing.inner
    dsimp only
    split
    · rcases value.obstacle?_inner writing with hsame | hdeep
      · exact .inl (by rw [show value.obstacle? (writing.levels - 1) = _ from hsame])
      · exact .inr ⟨by rw [show value.obstacle? (writing.levels - 1) = _ from hdeep.1]; rfl, hdeep⟩
    · exact .refl _ _

/-- So is a version of electron. -/
theorem readElectron_inner (writing : Writing) (value : Value) :
    SameUnlessDeep (value.IsTooDeepInside writing) (readElectron writing value)
      (readElectron writing.inner value) := by
  cases value with
  | null => exact .refl _ _
  | int n => exact .refl _ _
  | float x => exact .refl _ _
  | text s => exact .refl _ _
  | bool b =>
    cases b with
    | false => exact .refl _ _
    | true => exact Value.sameUnlessDeep_showing _ _ _
  | _ => exact Value.sameUnlessDeep_showing _ _ _

/-- So is a constraint. -/
theorem readConstraint_inner (writing : Writing) (environment : String) (value : Value) :
    SameUnlessDeep (value.IsTooDeepInside writing) (readConstraint writing environment value)
      (readConstraint writing.inner environment value) := by
  unfold readConstraint
  split
  · exact .refl _ _
  · cases value.number? with
    | some n => exact .refl _ _
    | none => exact Value.sameUnlessDeep_showing _ _ _

namespace TargetSpec

/-- So is an entry of a table of targets. -/
theorem readEntry_inner (writing : Writing) (spec : TargetSpec) (key : String) (value : Value) :
    SameUnlessDeep (value.IsTooDeepInside writing) (spec.readEntry writing key value).result
      (spec.readEntry writing.inner key value).result := by
  unfold readEntry
  split
  · exact (readBrowsers_inner writing value).bind fun _ => .refl _ _
  · split
    · exact SameUnlessDeep.bind (readElectron_inner writing value) fun _ => .refl _ _
    · exact SameUnlessDeep.bind (readConstraint_inner writing key value) fun _ => .refl _ _

/-- So is a table of targets, or one of its values is too deep. -/
theorem readEntries_inner (writing : Writing) (spec : TargetSpec) (entries : Entries Value) :
    SameUnlessDeep (∃ entry ∈ entries, Value.IsTooDeepInside writing entry.2)
      (spec.readEntries writing entries).result
      (spec.readEntries writing.inner entries).result := by
  induction entries generalizing spec with
  | nil => exact .refl _ _
  | cons entry rest ih =>
    obtain ⟨key, value⟩ := entry
    refine SameUnlessDeep.bind ?first fun next => ?rest
    case first =>
      exact (readEntry_inner writing spec key value).mono fun hdeep =>
        ⟨(key, value), List.mem_cons_self, hdeep⟩
    case rest =>
      exact (ih next).mono fun ⟨entry, hentry, hdeep⟩ =>
        ⟨entry, List.mem_cons_of_mem _ hentry, hdeep⟩

end TargetSpec

namespace PresetOptions

/-- Whether the value of a target among the options is too deep to be written inside of one more
call only. -/
def IsTooDeepInside (writing : Writing) (options : Entries Value) : Prop :=
  ∃ targets : Entries Value, options.get? "targets" = some (.map targets) ∧
    ∃ entry ∈ targets, Value.IsTooDeepInside writing entry.2

/-- Whether nothing hinders writing the targets among options in so many levels. -/
def areTargetsWritten (levels : Nat) (options : Entries Value) : Bool :=
  match options.get? "targets" with
  | some (.map targets) => targets.all fun entry => (Value.obstacle? levels entry.2).isNone
  | _ => true

/-- Targets that can be written inside of one more call are not too deep there. -/
theorem not_isTooDeepInside {writing : Writing} {options : Entries Value}
    (h : areTargetsWritten writing.inner.levels options = true) :
    ¬IsTooDeepInside writing options := by
  rintro ⟨targets, hget, entry, hentry, hdeep, -⟩
  rw [areTargetsWritten, hget] at h
  have hnone := List.all_eq_true.1 h entry hentry
  rw [hdeep] at hnone
  cases hnone

/-- The targets among the options are read as they are outside, or one of their values is too
deep. -/
theorem readTargets_inner (writing : Writing) (options : Entries Value) :
    SameUnlessDeep (IsTooDeepInside writing options) (readTargets writing options).result
      (readTargets writing.inner options).result := by
  unfold readTargets
  cases hget : options.get? "targets" with
  | none => exact .refl _ _
  | some value =>
    cases value with
    | map targets =>
      exact (TargetSpec.readEntries_inner writing {} targets).mono fun hdeep =>
        ⟨targets, hget, hdeep⟩
    | _ => exact .refl _ _

/-- Options are read inside of one more call as they are outside, or the value of a target is too
deep there only. -/
theorem read_inner (writing : Writing) (known? : Option (List String)) (options : Entries Value) :
    SameUnlessDeep (IsTooDeepInside writing options) (read writing known? (.map options)).result
      (read writing.inner known? (.map options)).result := by
  rw [read_map, read_map]
  unfold readTable
  dsimp only
  split
  · exact .refl _ _
  · exact (readTargets_inner writing options).bind fun _ => .refl _ _

end PresetOptions

end TransformPreset
