import TransformPreset.Capability.Requirement
import TransformPreset.Proofs.Entries
import TransformPreset.Proofs.Target.Checks

/-!
# What a table of targets reads as

Reading goes through the entries of a table of targets one by one. `readEntry_cases` says what one
entry does to a specification; from it follows what all of them do: the environments of the
specification are keys of the table that are no shorthand, its queries are those of the entry
`browsers`, and its electron version is that of the entry `electron`. Reading prints nothing.
-/

namespace TransformPreset

/-! ## Values that cannot be shown -/

namespace Value

mutual

/-- A value that cannot be written has an integer that is too long, or too many levels. -/
theorem eq_of_obstacle? {levels : Nat} {failure : Failure} (value : Value)
    (h : value.obstacle? levels = some failure) :
    failure = .integerTooLong ∨ failure = .nestedTooDeeply := by
  cases value with
  | int n =>
    rw [obstacle?] at h
    split at h
    · exact .inl (Option.some.inj h).symm
    · cases h
  | list items =>
    rw [obstacle?] at h
    split at h
    · exact .inr (Option.some.inj h).symm
    · exact eq_of_itemObstacle? items h
  | map entries =>
    rw [obstacle?] at h
    split at h
    · exact .inr (Option.some.inj h).symm
    · exact eq_of_entryObstacle? entries h
  | _ => cases h

/-- So has a list of values of which one cannot be written. -/
theorem eq_of_itemObstacle? {levels : Nat} {failure : Failure} (items : List Value)
    (h : itemObstacle? levels items = some failure) :
    failure = .integerTooLong ∨ failure = .nestedTooDeeply := by
  cases items with
  | nil => cases h
  | cons item rest =>
    rcases Option.or_eq_some_iff.1 h with h | ⟨-, h⟩
    · exact eq_of_obstacle? item h
    · exact eq_of_itemObstacle? rest h

/-- So have entries of which one cannot be written. -/
theorem eq_of_entryObstacle? {levels : Nat} {failure : Failure} (entries : List (String × Value))
    (h : entryObstacle? levels entries = some failure) :
    failure = .integerTooLong ∨ failure = .nestedTooDeeply := by
  cases entries with
  | nil => cases h
  | cons entry rest =>
    obtain ⟨name, value⟩ := entry
    rcases Option.or_eq_some_iff.1 h with h | ⟨-, h⟩
    · exact eq_of_obstacle? value h
    · exact eq_of_entryObstacle? rest h

end

/-- A failure that shows a value is of its own kind, or of the kind of what hinders showing. -/
theorem ofKind_showing (levels : Nat) (value : Value) {failure : Failure}
    {kinds : List Failure.Kind} (h : failure.OfKind kinds) (hvalue : .value ∈ kinds)
    (hdepth : .depth ∈ kinds) : (value.showing levels failure).OfKind kinds := by
  unfold showing
  cases hobstacle : value.obstacle? levels with
  | none => exact h
  | some obstacle =>
    rcases eq_of_obstacle? value hobstacle with rfl | rfl
    · exact Failure.ofKind_of_eq .value rfl hvalue
    · exact Failure.ofKind_of_eq .depth rfl hdepth

/-- A number inside of so many lists. -/
def nested : Nat → Value
  | 0 => .int 1
  | n + 1 => .list [nested n]

/-- In more lists than there are levels it cannot be written. -/
theorem obstacle?_nested (levels more : Nat) :
    (nested (levels + more + 1)).obstacle? levels = some .nestedTooDeeply := by
  induction levels with
  | zero => rfl
  | succ levels ih =>
    rw [Nat.succ_add, nested, obstacle?, if_neg (Nat.succ_ne_zero _), itemObstacle?,
      Nat.add_sub_cancel, ih, Option.some_or]

/-- Lists in one another hold no queries. -/
theorem queries?_nested (n : Nat) : (nested n).queries? = none := by
  cases n with
  | zero => rfl
  | succ n => cases n <;> rfl

end Value

/-! ## The shorthands -/

/-- A value of another shape is warned of, and nothing else happens. -/
theorem readBrowsers_onlyLogs (writing : Writing) (value : Value) :
    (readBrowsers writing value).OnlyLogs := by
  unfold readBrowsers
  split
  · exact Traced.onlyLogs_pure _
  · exact Traced.onlyLogs_pure _
  · refine Traced.OnlyLogs.bind ?_ fun _ _ => Traced.onlyLogs_pure _
    unfold warnBrowsers
    split
    · split
      · exact Traced.onlyLogs_log _ _ _
      · exact Traced.onlyLogs_fail _
      · exact Traced.onlyLogs_pure _
    · exact Traced.onlyLogs_pure _

/-- Whether a table of targets gives no electron version: the key is missing, or its value stands
for none. -/
def GivesNoElectron (targets : Entries Value) : Prop :=
  ∀ value, targets.get? electronKey = some value → value = .null ∨ value = .bool false

namespace TargetSpec

variable {writing : Writing} {spec next : TargetSpec} {entries : Entries Value}

/-! ## One entry -/

/-- What an entry of a table of targets does to a specification. -/
theorem readEntry_cases {key : String} {value : Value}
    (h : (spec.readEntry writing key value).result = .ok next) :
    (key = browsersKey ∧ next = { spec with browsers := value.queries? }) ∨
    (key = electronKey ∧ ∃ electron, readElectron writing value = .ok electron ∧
      next = { spec with electron }) ∨
    (key ∉ shorthandKeys ∧ ∃ c, readConstraint writing key value = .ok c ∧
      next = { spec with environments := spec.environments.insert key c }) := by
  unfold readEntry at h
  split at h
  · rename_i hkey
    obtain ⟨browsers, hbrowsers, h⟩ := Traced.bind_result_ok_iff.1 h
    rw [Traced.pure_result, Except.ok.injEq] at h
    exact .inl ⟨hkey, by rw [← h, readBrowsers_ok hbrowsers]⟩
  · rename_i hbrowsers
    split at h
    · rename_i hkey
      obtain ⟨electron, helectron, h⟩ := Traced.bind_result_ok_iff.1 h
      rw [Traced.pure_result, Except.ok.injEq] at h
      exact .inr (.inl ⟨hkey, electron, helectron, h.symm⟩)
    · rename_i helectron
      obtain ⟨c, hc, h⟩ := Traced.bind_result_ok_iff.1 h
      rw [Traced.pure_result, Except.ok.injEq] at h
      refine .inr (.inr ⟨?_, c, hc, h.symm⟩)
      simp [shorthandKeys, hbrowsers, helectron]

/-- An entry under another key leaves the queries. -/
theorem readEntry_browsers {key : String} {value : Value}
    (h : (spec.readEntry writing key value).result = .ok next) :
    next.browsers = if key = browsersKey then value.queries? else spec.browsers := by
  have hne : electronKey ≠ browsersKey := by decide
  rcases readEntry_cases h with ⟨hkey, rfl⟩ | ⟨hkey, electron, -, rfl⟩ | ⟨hkey, c, -, rfl⟩
  · rw [if_pos hkey]
  · rw [if_neg (hkey ▸ hne)]
  · have hbrowsers : key ≠ browsersKey := fun e => hkey (e ▸ List.mem_cons_self)
    rw [if_neg hbrowsers]

/-- An entry under another key leaves the electron version. -/
theorem readEntry_electron {key : String} {value : Value}
    (h : (spec.readEntry writing key value).result = .ok next) :
    if key = electronKey then readElectron writing value = .ok next.electron
    else next.electron = spec.electron := by
  have hne : browsersKey ≠ electronKey := by decide
  rcases readEntry_cases h with ⟨hkey, rfl⟩ | ⟨hkey, electron, he, rfl⟩ | ⟨hkey, c, -, rfl⟩
  · rw [if_neg (hkey ▸ hne)]
  · rw [if_pos hkey]
    exact he
  · have helectron : key ≠ electronKey := fun e => hkey (e ▸ by decide)
    rw [if_neg helectron]

/-- Reading one entry only writes log entries. -/
theorem readEntry_onlyLogs (writing : Writing) (spec : TargetSpec) (key : String) (value : Value) :
    (spec.readEntry writing key value).OnlyLogs := by
  unfold readEntry
  split
  · exact (readBrowsers_onlyLogs writing value).bind fun _ _ => Traced.onlyLogs_pure _
  · split
    · exact (Traced.onlyLogs_of _).bind fun _ _ => Traced.onlyLogs_pure _
    · exact (Traced.onlyLogs_of _).bind fun _ _ => Traced.onlyLogs_pure _

/-! ## All entries -/

/-- Every environment of a specification that was read is a key of the table, and no shorthand. -/
theorem mem_environments_of_readEntries (h : (spec.readEntries writing entries).result = .ok next)
    {key : String} (hkey : key ∈ next.environments.keys) :
    key ∈ spec.environments.keys ∨ key ∈ entries.keys ∧ key ∉ shorthandKeys := by
  induction entries generalizing spec with
  | nil =>
    rw [readEntries, Traced.pure_result, Except.ok.injEq] at h
    exact .inl (h ▸ hkey)
  | cons entry rest ih =>
    obtain ⟨name, value⟩ := entry
    obtain ⟨mid, hmid, h⟩ := Traced.bind_result_ok_iff.1 h
    rcases ih h with hin | ⟨hin, hplain⟩
    · -- The environment was there before the later entries, so the first one may have brought it.
      rcases readEntry_cases hmid with ⟨-, rfl⟩ | ⟨-, electron, -, rfl⟩ | ⟨hname, c, -, rfl⟩
      · exact .inl hin
      · exact .inl hin
      · rcases Entries.mem_keys_insert.1 hin with rfl | hin
        · exact .inr ⟨List.mem_cons_self, hname⟩
        · exact .inl hin
    · exact .inr ⟨List.mem_cons_of_mem _ hin, hplain⟩

/-- A specification that was read names no environment twice. -/
theorem nodup_environments_of_readEntries (h : (spec.readEntries writing entries).result = .ok next)
    (hspec : spec.environments.keys.Nodup) : next.environments.keys.Nodup := by
  induction entries generalizing spec with
  | nil =>
    rw [readEntries, Traced.pure_result, Except.ok.injEq] at h
    exact h ▸ hspec
  | cons entry rest ih =>
    obtain ⟨name, value⟩ := entry
    obtain ⟨mid, hmid, h⟩ := Traced.bind_result_ok_iff.1 h
    refine ih h ?_
    rcases readEntry_cases hmid with ⟨-, rfl⟩ | ⟨-, electron, -, rfl⟩ | ⟨-, c, -, rfl⟩
    · exact hspec
    · exact hspec
    · exact Entries.nodup_insert hspec _ _

/-- The queries of a specification that was read are those of the entry `browsers`. -/
theorem browsers_of_readEntries (h : (spec.readEntries writing entries).result = .ok next)
    (hdistinct : entries.keys.Nodup) :
    next.browsers = ((entries.get? browsersKey).map Value.queries?).getD spec.browsers := by
  induction entries generalizing spec with
  | nil =>
    rw [readEntries, Traced.pure_result, Except.ok.injEq] at h
    rw [← h]
    rfl
  | cons entry rest ih =>
    obtain ⟨name, value⟩ := entry
    obtain ⟨mid, hmid, h⟩ := Traced.bind_result_ok_iff.1 h
    obtain ⟨hname, hrest⟩ := List.nodup_cons.1 hdistinct
    rw [ih h hrest, readEntry_browsers hmid, Entries.get?_cons]
    split
    · -- Keys are distinct, so no later entry replaces the queries of this one.
      rename_i hkey
      have hnone : Entries.get? rest browsersKey = none :=
        (Entries.get?_eq_none_iff rest browsersKey).2 (hkey ▸ hname)
      rw [hnone]
      rfl
    · rfl

/-- The electron version of a specification that was read is that of the entry `electron`. -/
theorem electron_of_readEntries (h : (spec.readEntries writing entries).result = .ok next)
    (hdistinct : entries.keys.Nodup) :
    match entries.get? electronKey with
    | some value => readElectron writing value = .ok next.electron
    | none => next.electron = spec.electron := by
  induction entries generalizing spec with
  | nil =>
    rw [readEntries, Traced.pure_result, Except.ok.injEq] at h
    exact congrArg electron h.symm
  | cons entry rest ih =>
    obtain ⟨name, value⟩ := entry
    obtain ⟨mid, hmid, h⟩ := Traced.bind_result_ok_iff.1 h
    obtain ⟨hname, hrest⟩ := List.nodup_cons.1 hdistinct
    have hfirst := readEntry_electron hmid
    have hlater := ih h hrest
    rw [Entries.get?_cons]
    split at hfirst
    · -- No later entry has the key again.
      rename_i hkey
      have hnone : Entries.get? rest electronKey = none :=
        (Entries.get?_eq_none_iff rest electronKey).2 (hkey ▸ hname)
      rw [hnone] at hlater
      rw [if_pos hkey]
      exact hlater ▸ hfirst
    · rename_i hkey
      rw [if_neg hkey]
      cases hget : Entries.get? rest electronKey with
      | some later =>
        rw [hget] at hlater
        exact hlater
      | none =>
        rw [hget] at hlater
        exact hlater.trans hfirst

/-- An entry leaves the environments of other keys. -/
theorem readEntry_environments {key other : String} {value : Value}
    (h : (spec.readEntry writing key value).result = .ok next) (hne : key ≠ other) :
    next.environments.get? other = spec.environments.get? other := by
  rcases readEntry_cases h with ⟨-, rfl⟩ | ⟨-, electron, -, rfl⟩ | ⟨-, c, -, rfl⟩
  · rfl
  · rfl
  · rw [Entries.get?_insert, if_neg hne]

/-- Entries leave the environment of a key that none of them has. -/
theorem environments_of_notMem (h : (spec.readEntries writing entries).result = .ok next)
    {key : String} (hkey : key ∉ entries.keys) :
    next.environments.get? key = spec.environments.get? key := by
  induction entries generalizing spec with
  | nil =>
    rw [readEntries, Traced.pure_result, Except.ok.injEq] at h
    rw [h]
  | cons entry rest ih =>
    obtain ⟨name, value⟩ := entry
    obtain ⟨mid, hmid, h⟩ := Traced.bind_result_ok_iff.1 h
    obtain ⟨hname, hrest⟩ := not_or.1 (fun hor => hkey (List.mem_cons.2 hor))
    rw [ih h hrest, readEntry_environments hmid (Ne.symm hname)]

/-- The constraint on an environment of the table is the one that its entry reads as. -/
theorem environment_of_readEntries (h : (spec.readEntries writing entries).result = .ok next)
    (hdistinct : entries.keys.Nodup) {key : String} {value : Value}
    (hget : entries.get? key = some value) (hplain : key ∉ shorthandKeys) :
    ∃ c, readConstraint writing key value = .ok c ∧ next.environments.get? key = some c := by
  induction entries generalizing spec with
  | nil => cases hget
  | cons entry rest ih =>
    obtain ⟨name, first⟩ := entry
    obtain ⟨mid, hmid, h⟩ := Traced.bind_result_ok_iff.1 h
    obtain ⟨hname, hrest⟩ := List.nodup_cons.1 hdistinct
    rw [Entries.get?_cons] at hget
    split at hget
    · rename_i hkey
      subst hkey
      obtain rfl := Option.some.inj hget
      -- The first entry writes the constraint, and the later ones have other keys.
      have hkept := environments_of_notMem h hname
      rcases readEntry_cases hmid with ⟨hkey, -⟩ | ⟨hkey, -⟩ | ⟨-, c, hc, rfl⟩
      · exact absurd (hkey ▸ List.mem_cons_self) hplain
      · exact absurd (hkey ▸ List.mem_cons_of_mem _ List.mem_cons_self) hplain
      · refine ⟨c, hc, hkept.trans ?_⟩
        rw [Entries.get?_insert, if_pos rfl]
    · exact ih h hrest hget

/-- The kinds of failures that reading a table of targets has. -/
def readingKinds : List Failure.Kind :=
  [.config, .malformedVersion, .overflow, .value, .depth]

/-- Several entries are refused in few ways. -/
theorem readEntries_failsWith (writing : Writing) (spec : TargetSpec) (entries : Entries Value) :
    FailsWith (Failure.OfKind readingKinds) (spec.readEntries writing entries).result := by
  refine readEntries_failsWith_of spec ?browsers ?electron ?constraint
  case browsers =>
    intro value _ _
    exact Failure.ofKind_of_eq .depth rfl (by decide)
  case electron =>
    rintro key value failure - (_ | _)
    · exact Failure.ofKind_of_eq .value rfl (by decide)
    · exact Value.ofKind_showing _ _ (Failure.ofKind_of_eq .malformedVersion rfl (by decide))
        (by decide) (by decide)
  case constraint =>
    rintro key value failure - (_ | _)
    · exact Failure.ofKind_of_eq .overflow rfl (by decide)
    · exact Value.ofKind_showing _ _ (Failure.ofKind_of_eq .config rfl (by decide))
        (by decide) (by decide)

/-- Reading several entries only writes log entries. -/
theorem readEntries_onlyLogs (writing : Writing) (spec : TargetSpec) (entries : Entries Value) :
    (spec.readEntries writing entries).OnlyLogs := by
  induction entries generalizing spec with
  | nil => exact Traced.onlyLogs_pure _
  | cons entry rest ih => exact (readEntry_onlyLogs _ _ _ _).bind fun next _ => ih next

/-! ## Tables of targets -/

/-- Whether a specification is what some table of targets reads as. -/
def IsRead (spec : TargetSpec) : Prop :=
  ∃ writing entries, (read writing (.map entries)).result = .ok spec

/-- A specification that was read names no environment by a shorthand. -/
theorem IsRead.notMem_shorthandKeys (h : spec.IsRead) {key : String}
    (hkey : key ∈ spec.environments.keys) : key ∉ shorthandKeys := by
  obtain ⟨writing, entries, h⟩ := h
  rcases mem_environments_of_readEntries h hkey with hnone | ⟨-, hplain⟩
  · exact absurd hnone List.not_mem_nil
  · exact hplain

/-- A specification that was read names no environment twice. -/
theorem IsRead.nodup (h : spec.IsRead) : spec.environments.keys.Nodup := by
  obtain ⟨writing, entries, h⟩ := h
  exact nodup_environments_of_readEntries h List.nodup_nil

/-- Whether the environments of a specification are named once each, and none by a shorthand. -/
structure NamesPlainly (spec : TargetSpec) : Prop where
  /-- No environment is named twice. -/
  nodup : spec.environments.keys.Nodup
  /-- None is named by the key of a shorthand. -/
  notMem_shorthandKeys : ∀ key ∈ spec.environments.keys, key ∉ shorthandKeys

/-- A specification that was read names its environments plainly. -/
theorem IsRead.namesPlainly (h : spec.IsRead) : spec.NamesPlainly :=
  ⟨h.nodup, fun _ => h.notMem_shorthandKeys⟩

/-- A table of targets without an electron version reads as a specification without one. -/
theorem electron_of_givesNoElectron (h : (read writing (.map entries)).result = .ok spec)
    (hdistinct : entries.keys.Nodup) (hnone : GivesNoElectron entries) : spec.electron = none := by
  have helectron := electron_of_readEntries h hdistinct
  cases hget : entries.get? electronKey with
  | none =>
    rw [hget] at helectron
    exact helectron
  | some value =>
    rw [hget] at helectron
    rcases hnone value hget with rfl | rfl
    · exact (Except.ok.inj helectron).symm
    · exact (Except.ok.inj helectron).symm

/-- Reading targets only writes log entries. -/
theorem read_onlyLogs (writing : Writing) (raw : Value) : (read writing raw).OnlyLogs := by
  unfold read
  split
  · exact Traced.onlyLogs_pure _
  · exact Traced.onlyLogs_pure _
  · exact readEntries_onlyLogs _ _ _
  · exact Traced.onlyLogs_fail _

end TargetSpec

end TransformPreset
