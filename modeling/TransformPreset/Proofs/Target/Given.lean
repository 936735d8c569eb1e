import TransformPreset.Proofs.Target.Reading

/-!
# What a table of targets gives

A table of targets gives a version for each environment that it names directly, an electron version,
and browser queries. Reading succeeds exactly if each entry can be read by itself
(`TargetSpec.exists_read_iff`), and the specification then holds what the table gives
(`TargetSpec.read_givenBy`). Both are said by looking entries up, so neither depends on the order of
the entries, but for the order of the environments.
-/

namespace TransformPreset

/-! ## Views of a table -/

/-- The keys of a table of targets that name environments, in order. -/
def directKeys (targets : Entries Value) : List String :=
  targets.keys.filter fun key => key ∉ shorthandKeys

/-- The browser queries that a table of targets gives. -/
def givenQueries? (targets : Entries Value) : Option (List String) :=
  (targets.get? browsersKey).bind Value.queries?

/-- Browsers that are given as queries are not warned of. -/
theorem not_tooDeepToWarn {writing : Writing} {targets : Entries Value} {queries : List String}
    (hqueries : givenQueries? targets = some queries) {value : Value}
    (hget : targets.get? browsersKey = some value) : ¬TooDeepToWarn writing value := by
  rw [givenQueries?, hget, Option.bind_some] at hqueries
  exact fun h => Option.some_ne_none _ (hqueries.symm.trans h.queries)

/-- Whether a value stands for no electron version. -/
def Value.standsForNone : Value → Bool
  | .null | .bool false => true
  | _ => false

/-- The electron version that a table of targets gives; null and false give none. -/
def givenElectron? (targets : Entries Value) : Option Value :=
  (targets.get? electronKey).filter fun value => !value.standsForNone

/-- A value that is read as an electron version gives one exactly if it does not stand for none. -/
theorem readElectron_ok {writing : Writing} {value : Value} {electron? : Option String}
    (h : readElectron writing value = .ok electron?) :
    value.standsForNone = true ∧ electron? = none ∨
      value.standsForNone = false ∧ ∃ version, electron? = some version := by
  unfold readElectron at h
  split at h
  · exact .inl ⟨rfl, (Except.ok.inj h).symm⟩
  · exact .inl ⟨rfl, (Except.ok.inj h).symm⟩
  · exact .inr ⟨rfl, _, (Except.ok.inj h).symm⟩
  · split at h
    · cases h
    · exact .inr ⟨rfl, _, (Except.ok.inj h).symm⟩
  · exact .inr ⟨rfl, _, (Except.ok.inj h).symm⟩
  · cases h

/-- A value that stands for no electron version is read as none. -/
theorem readElectron_of_standsForNone {writing : Writing} {value : Value}
    (h : value.standsForNone = true) :
    readElectron writing value = .ok none := by
  unfold Value.standsForNone at h
  split at h
  · rfl
  · rfl
  · cases h

/-- Whether an entry of a table of targets can be read by itself. -/
structure EntryReadable (writing : Writing) (key : String) (value : Value) : Prop where
  /-- Browsers that hold no queries can be warned of. -/
  browsers : key = browsersKey → ¬TooDeepToWarn writing value
  /-- An electron version is a text or a number, or stands for none. -/
  electron : key = electronKey → ∃ electron?, readElectron writing value = .ok electron?
  /-- The version of an environment is a number in range, or asks for the running one. -/
  direct : key ∉ shorthandKeys → ∃ c, readConstraint writing key value = .ok c

/-- A specification that holds what a table of targets gives. -/
structure TargetSpec.GivenBy (writing : Writing) (targets : Entries Value) (spec : TargetSpec) :
    Prop where
  /-- The environments come in the order of the table. -/
  keys : spec.environments.keys = directKeys targets
  /-- The constraint on an environment is what its entry reads as. -/
  get? : ∀ key, spec.environments.get? key =
    if key ∈ shorthandKeys then none
    else (targets.get? key).bind fun value => (readConstraint writing key value).toOption
  /-- There is an electron version exactly if one is given, and it is what its entry reads as. -/
  electron : match givenElectron? targets with
    | none => spec.electron = none
    | some value => ∃ version, readElectron writing value = .ok (some version) ∧
        spec.electron = some version
  /-- The queries are the given ones. -/
  browsers : spec.browsers = givenQueries? targets

namespace TargetSpec

variable {writing : Writing} {spec next : TargetSpec} {targets entries : Entries Value}

/-! ## Reading succeeds -/

/-- An entry is read, whatever was read before, exactly if it can be read by itself. -/
theorem exists_readEntry_iff (writing : Writing) (spec : TargetSpec) (key : String)
    (value : Value) : (∃ next, (spec.readEntry writing key value).result = .ok next) ↔
      EntryReadable writing key value := by
  have hne : browsersKey ≠ electronKey := by decide
  constructor
  · rintro ⟨next, h⟩
    rcases readEntry_cases h with ⟨rfl, -⟩ | ⟨rfl, electron, helectron, -⟩ | ⟨hkey, c, hc, -⟩
    · refine ⟨fun _ => ?_, fun heq => absurd heq hne, fun hkey => absurd (by decide) hkey⟩
      obtain ⟨queries?, hqueries, -⟩ := Traced.bind_result_ok_iff.1 h
      exact (allPass_cons.1 ((readBrowsers_decides writing value).ok_iff.1 ⟨queries?, hqueries⟩)).1
    · exact ⟨fun heq => absurd heq.symm hne, fun _ => ⟨electron, helectron⟩,
        fun hkey => absurd (by decide) hkey⟩
    · exact ⟨fun heq => absurd (heq ▸ by decide) hkey, fun heq => absurd (heq ▸ by decide) hkey,
        fun _ => ⟨c, hc⟩⟩
  · intro h
    unfold readEntry
    split
    · rename_i hkey
      obtain ⟨queries?, hqueries⟩ := (readBrowsers_decides writing value).ok_iff.2
        (allPass_cons.2 ⟨h.browsers hkey, allPass_nil⟩)
      exact ⟨_, Traced.bind_result_ok_iff.2 ⟨queries?, hqueries, rfl⟩⟩
    · rename_i hbrowsers
      split
      · rename_i hkey
        obtain ⟨electron, helectron⟩ := h.electron hkey
        exact ⟨_, Traced.bind_result_ok_iff.2 ⟨electron, helectron, rfl⟩⟩
      · rename_i helectron
        have hkey : key ∉ shorthandKeys := by
          simp [shorthandKeys, hbrowsers, helectron]
        obtain ⟨c, hc⟩ := h.direct hkey
        exact ⟨_, Traced.bind_result_ok_iff.2 ⟨c, hc, rfl⟩⟩

/-- Entries are read exactly if each of them can be read by itself. -/
theorem exists_readEntries_iff (writing : Writing) (spec : TargetSpec) (entries : Entries Value) :
    (∃ next, (spec.readEntries writing entries).result = .ok next) ↔
      ∀ entry ∈ entries, EntryReadable writing entry.1 entry.2 := by
  induction entries generalizing spec with
  | nil => exact ⟨fun _ _ hentry => absurd hentry List.not_mem_nil, fun _ => ⟨spec, rfl⟩⟩
  | cons entry rest ih =>
    obtain ⟨key, value⟩ := entry
    rw [List.forall_mem_cons]
    constructor
    · rintro ⟨next, h⟩
      obtain ⟨mid, hmid, h⟩ := Traced.bind_result_ok_iff.1 h
      exact ⟨(exists_readEntry_iff writing spec key value).1 ⟨mid, hmid⟩, (ih mid).1 ⟨next, h⟩⟩
    · rintro ⟨hentry, hrest⟩
      obtain ⟨mid, hmid⟩ := (exists_readEntry_iff writing spec key value).2 hentry
      obtain ⟨next, h⟩ := (ih mid).2 hrest
      exact ⟨next, Traced.bind_result_ok_iff.2 ⟨mid, hmid, h⟩⟩

/-- A table of targets is read exactly if each of its entries can be read by itself. -/
theorem exists_read_iff (writing : Writing) (targets : Entries Value) :
    (∃ spec, (read writing (.map targets)).result = .ok spec) ↔
      ∀ entry ∈ targets, EntryReadable writing entry.1 entry.2 :=
  exists_readEntries_iff writing {} targets

/-! ## What is read -/

/-- Entries under keys that are new add the environments that they name, in order. -/
theorem keys_of_readEntries (h : (spec.readEntries writing entries).result = .ok next)
    (hdistinct : entries.keys.Nodup)
    (hnew : ∀ key ∈ entries.keys, key ∉ spec.environments.keys) :
    next.environments.keys = spec.environments.keys ++ directKeys entries := by
  induction entries generalizing spec with
  | nil =>
    rw [readEntries, Traced.pure_result, Except.ok.injEq] at h
    rw [h]
    exact (List.append_nil _).symm
  | cons entry rest ih =>
    obtain ⟨name, value⟩ := entry
    obtain ⟨mid, hmid, h⟩ := Traced.bind_result_ok_iff.1 h
    obtain ⟨hname, hrest⟩ := List.nodup_cons.1 hdistinct
    obtain ⟨hfirst, hlater⟩ := List.forall_mem_cons.1 hnew
    have hkeys : directKeys ((name, value) :: rest) =
        if name ∉ shorthandKeys then name :: directKeys rest else directKeys rest := by
      unfold directKeys Entries.keys
      rw [List.map_cons, List.filter_cons]
      by_cases hplain : name ∈ shorthandKeys <;> simp [hplain]
    -- A shorthand adds no environment, and any other key adds its own at the end.
    rcases readEntry_cases hmid with ⟨hkey, rfl⟩ | ⟨hkey, electron, -, rfl⟩ | ⟨hplain, c, -, rfl⟩
    · rw [ih h hrest hlater, hkeys, if_neg fun hplain => hplain (hkey ▸ by decide)]
    · rw [ih h hrest hlater, hkeys, if_neg fun hplain => hplain (hkey ▸ by decide)]
    · have hstill : ∀ key ∈ Entries.keys rest,
          key ∉ (spec.environments.insert name c).keys := by
        intro key hkey hmem
        rcases Entries.mem_keys_insert.1 hmem with rfl | hold
        · exact hname hkey
        · exact hlater key hkey hold
      rw [ih h hrest hstill, hkeys, if_pos hplain]
      show (spec.environments.insert name c).keys ++ _ = _
      rw [Entries.keys_insert, if_neg hfirst, List.append_assoc, List.singleton_append]

/-- A specification that was read from a table of targets holds what the table gives. -/
theorem read_givenBy (h : (read writing (.map targets)).result = .ok spec)
    (hdistinct : targets.keys.Nodup) : spec.GivenBy writing targets where
  keys := keys_of_readEntries h hdistinct fun _ _ hmem => absurd hmem List.not_mem_nil
  get? := by
    intro key
    split
    · rename_i hkey
      rw [Entries.get?_eq_none_iff]
      intro hmem
      rcases mem_environments_of_readEntries h hmem with hnone | ⟨-, hplain⟩
      · exact absurd hnone List.not_mem_nil
      · exact hplain hkey
    · rename_i hplain
      cases hget : targets.get? key with
      | none => exact environments_of_notMem h ((Entries.get?_eq_none_iff targets key).1 hget)
      | some value =>
        obtain ⟨c, hc, hfound⟩ := environment_of_readEntries h hdistinct hget hplain
        rw [hfound, Option.bind_some, hc]
        rfl
  electron := by
    have helectron := electron_of_readEntries h hdistinct
    unfold givenElectron?
    cases hget : targets.get? electronKey with
    | none =>
      rw [hget] at helectron
      exact helectron
    | some value =>
      rw [hget] at helectron
      rcases readElectron_ok helectron with ⟨hnone, hspec⟩ | ⟨hsome, version, hspec⟩
      · rw [Option.filter_some, hnone]
        exact hspec
      · rw [Option.filter_some, hsome]
        exact ⟨version, hspec ▸ helectron, hspec⟩
  browsers := by
    rw [browsers_of_readEntries h hdistinct, givenQueries?]
    cases targets.get? browsersKey <;> rfl

/-! ## Electron versions that are given -/

/-- An electron version that a table gives is in the specification, as its entry reads. -/
theorem GivenBy.exists_electron (h : spec.GivenBy writing targets) {value : Value}
    (hvalue : givenElectron? targets = some value) :
    ∃ version, readElectron writing value = .ok (some version) ∧ spec.electron = some version := by
  have helectron := h.electron
  rw [hvalue] at helectron
  exact helectron

/-- A specification without an electron version is given by a table without one. -/
theorem GivenBy.givenElectron?_eq_none (h : spec.GivenBy writing targets)
    (hnone : spec.electron = none) :
    givenElectron? targets = none := by
  cases hvalue : givenElectron? targets with
  | none => rfl
  | some value =>
    obtain ⟨version, -, hspec⟩ := h.exists_electron hvalue
    rw [hnone] at hspec
    cases hspec

/-- The electron version of a specification is what the entry of one that is given reads as. -/
theorem GivenBy.exists_givenElectron? (h : spec.GivenBy writing targets) {version : String}
    (hsome : spec.electron = some version) :
    ∃ value, givenElectron? targets = some value ∧
      readElectron writing value = .ok (some version) := by
  cases hvalue : givenElectron? targets with
  | none =>
    have helectron := h.electron
    rw [hvalue] at helectron
    rw [show spec.electron = none from helectron] at hsome
    cases hsome
  | some value =>
    obtain ⟨text, htext, hspec⟩ := h.exists_electron hvalue
    obtain rfl : text = version := Option.some.inj (hspec.symm.trans hsome)
    exact ⟨value, rfl, htext⟩

end TargetSpec

end TransformPreset
