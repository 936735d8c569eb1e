import TransformPreset.Proofs.Capability.Agreement

/-!
# Selection environment by environment

A capability is needed for targets if it is lacked by one of them, and for no targets at all. So
what is selected for two maps of targets laid over each other is what is selected for one of the
two, the order of the targets does not matter, and lesser versions only add to a selection
(`selectRequired_byEnvironment`). All this rests on `Comparable.needs_iff`, which says by membership
when a capability is needed. The versions of targets are checked before any of them is compared, so
that one that is no number is refused whatever the table has.
-/

namespace TransformPreset

variable {normalizer : Normalizer} {targets lower : CanonicalTargets} {capability : Entries Value}
  {table : Entries (Entries Value)}

/-! ## When a capability is needed -/

/-- A capability of numbers is needed for comparable targets exactly if there are none, or one of
them lacks it. -/
theorem Comparable.needs_iff (h : Comparable targets) (hversions : NumericVersions capability) :
    needs normalizer (.map targets) capability = true ↔
      targets = [] ∨ ∃ entry ∈ targets, lacks capability entry.1 entry.2 = .ok true := by
  rw [TransformPreset.needs_iff, h.isRequired_eq, Traced.of_result]
  have hanswer := h.requiredFor_ok hversions normalizer.writing
  have hnumbers : ∀ entry ∈ targets, ∃ n, Value.number? entry.2 = some n :=
    fun entry hentry => (h entry hentry).2
  constructor
  · intro hneeded
    by_contra hnot
    obtain ⟨hsome, hall⟩ := not_or.1 hnot
    have hnone : requiredFor normalizer.writing targets capability = .ok false := by
      refine requiredFor_eq_false_iff.2 ⟨hsome, hnumbers, fun entry hentry => ?_⟩
      obtain ⟨n, hn⟩ := hnumbers entry hentry
      obtain ⟨found, hfound⟩ := lacks_ok hn hversions entry.1
      cases found with
      | false => exact hfound
      | true => exact absurd ⟨entry, hentry, hfound⟩ hall
    rw [hnone] at hneeded
    cases hneeded
  · intro hneeded
    obtain ⟨required, hrequired⟩ := hanswer
    cases required with
    | true => exact hrequired
    | false =>
      obtain ⟨hsome, -, hhas⟩ := requiredFor_eq_false_iff.1 hrequired
      rcases hneeded with hnil | ⟨entry, hentry, hlacks⟩
      · exact absurd hnil hsome
      · rw [hhas entry hentry] at hlacks
        cases hlacks

/-- Comparable targets stay so if other ones are added. -/
theorem Comparable.append {others : CanonicalTargets} (h : Comparable targets)
    (hothers : Comparable others) : Comparable (targets ++ others) := by
  intro entry hentry
  exact (List.mem_append.1 hentry).elim (h entry) (hothers entry)

/-- A capability is needed for some targets and others together exactly if it is needed for the ones
or for the others. -/
theorem Comparable.needs_append {others : CanonicalTargets} (h : Comparable targets)
    (hothers : Comparable others) (hsome : targets ≠ []) (hsomeOthers : others ≠ [])
    (hversions : NumericVersions capability) :
    needs normalizer (.map (targets ++ others)) capability =
      (needs normalizer (.map targets) capability ||
        needs normalizer (.map others) capability) := by
  rw [Bool.eq_iff_iff, Bool.or_eq_true, (h.append hothers).needs_iff hversions,
    h.needs_iff hversions, hothers.needs_iff hversions]
  simp only [List.append_eq_nil_iff, hsome, hsomeOthers, and_self, false_or, List.mem_append,
    or_and_right, exists_or]

/-- Whether a capability is needed does not depend on the order of the targets. -/
theorem Comparable.needs_perm {others : CanonicalTargets} (h : Comparable targets)
    (hperm : targets.Perm others) (hversions : NumericVersions capability) :
    needs normalizer (.map others) capability = needs normalizer (.map targets) capability := by
  have hothers : Comparable others := fun entry hentry => h entry (hperm.mem_iff.2 hentry)
  rw [Bool.eq_iff_iff, h.needs_iff hversions, hothers.needs_iff hversions]
  refine or_congr ⟨fun hnil => ?_, fun hnil => ?_⟩ ?_
  · exact (hnil ▸ hperm).eq_nil
  · exact (hnil ▸ hperm.symm).eq_nil
  · exact exists_congr fun entry => and_congr_left fun _ => hperm.mem_iff.symm

/-! ## Lesser versions -/

/-- Whether a version is another one or a lesser number. -/
def Value.AtMost (least value : Value) : Prop :=
  least = value ∨
    ∃ m n, least.number? = some m ∧ value.number? = some n ∧ m.lt n = true

/-- Whether targets are others in which some versions were replaced by lesser ones. -/
def CanonicalTargets.AtMost (lower targets : CanonicalTargets) : Prop :=
  List.Forall₂ (fun least entry => least.1 = entry.1 ∧ least.2.AtMost entry.2) lower targets

/-- What lacks a capability lacks it in a lesser version, too. -/
theorem Value.AtMost.lacks {least value : Value} (h : least.AtMost value) {environment : String}
    (hlacks : TransformPreset.lacks capability environment value = .ok true) :
    TransformPreset.lacks capability environment least = .ok true := by
  rcases h with rfl | ⟨m, n, hm, hn, hlt⟩
  · exact hlacks
  · rcases lacks_eq_true_iff.1 hlacks with hnone | ⟨implemented, a, b, hget, ha, hb, hab⟩
    · exact lacks_eq_true_iff.2 (.inl hnone)
    · obtain rfl := Option.some.inj ((ordinal?_of_number? hn).symm.trans ha)
      exact lacks_eq_true_iff.2 (.inr
        ⟨implemented, m, b, hget, ordinal?_of_number? hm, hb, Number.lt_trans hlt hab⟩)

/-- Targets with lesser versions are comparable if the others are. -/
theorem CanonicalTargets.AtMost.comparable (h : lower.AtMost targets)
    (hcomparable : Comparable targets) : Comparable lower := by
  induction h with
  | nil => exact hcomparable
  | cons hentry _ ih =>
    obtain ⟨⟨hplain, n, hn⟩, hrest⟩ := List.forall_mem_cons.1 hcomparable
    obtain ⟨hkey, hvalue⟩ := hentry
    refine List.forall_mem_cons.2 ⟨⟨hkey ▸ hplain, ?_⟩, ih hrest⟩
    rcases hvalue with heq | ⟨m, -, hm, -⟩
    · exact ⟨n, by rw [heq, hn]⟩
    · exact ⟨m, hm⟩

/-- If one of some targets lacks a capability, so does one of targets with lesser versions. -/
theorem CanonicalTargets.AtMost.exists_lacks (h : lower.AtMost targets)
    (hlacks : ∃ entry ∈ targets, lacks capability entry.1 entry.2 = .ok true) :
    ∃ entry ∈ lower, lacks capability entry.1 entry.2 = .ok true := by
  induction h with
  | nil => exact hlacks
  | cons hentry _ ih =>
    obtain ⟨hkey, hvalue⟩ := hentry
    rw [List.exists_mem_cons_iff] at hlacks ⊢
    refine hlacks.imp (fun hfirst => ?_) ih
    rw [hkey]
    exact hvalue.lacks hfirst

/-- What is needed for targets is needed for lesser versions of them, too. -/
theorem CanonicalTargets.AtMost.needs (h : lower.AtMost targets) (hcomparable : Comparable targets)
    (hversions : NumericVersions capability)
    (hneeded : TransformPreset.needs normalizer (.map targets) capability = true) :
    TransformPreset.needs normalizer (.map lower) capability = true := by
  rw [(h.comparable hcomparable).needs_iff hversions]
  rcases (hcomparable.needs_iff hversions).1 hneeded with rfl | ⟨entry, hentry, hlacks⟩
  · exact .inl (List.forall₂_nil_right_iff.1 h)
  · exact .inr (h.exists_lacks ⟨entry, hentry, hlacks⟩)

/-! ## Tables -/

/-- Where no name comes twice, a name is among those of some entries exactly if its entry is. -/
theorem Entries.mem_map_filter_iff {α : Type} {entries : Entries α}
    (hdistinct : entries.keys.Nodup) {p : String × α → Bool} {entry : String × α}
    (hentry : entry ∈ entries) : entry.1 ∈ (entries.filter p).map Prod.fst ↔ p entry = true := by
  rw [List.mem_map]
  constructor
  · rintro ⟨other, hother, hkey⟩
    obtain ⟨hmem, hp⟩ := List.mem_filter.1 hother
    -- Both entries are what is looked up under the one name.
    have hvalue : other.2 = entry.2 := by
      have hlookup := Entries.get?_of_mem hdistinct (show (other.1, other.2) ∈ entries from hmem)
      rw [hkey, Entries.get?_of_mem hdistinct (show (entry.1, entry.2) ∈ entries from hentry)]
        at hlookup
      exact (Option.some.inj hlookup).symm
    rw [← Prod.ext hkey hvalue]
    exact hp
  · exact fun hp => ⟨entry, List.mem_filter.2 ⟨hentry, hp⟩, rfl⟩

/-- How selection from a table of numbers depends on the targets. -/
structure SelectsByEnvironment (normalizer : Normalizer) (table : Entries (Entries Value)) :
    Prop where
  /-- For maps with different environments laid over each other, exactly the names are selected that
  are selected for one of them, in the order of the table. -/
  union : ∀ targets others : CanonicalTargets, Comparable targets → Comparable others →
    targets ≠ [] → others ≠ [] → others.keys.Nodup → (∀ key ∈ others.keys, key ∉ targets.keys) →
    ∃ names otherNames,
      (selectRequired normalizer (.map targets) table).result = .ok names ∧
      (selectRequired normalizer (.map others) table).result = .ok otherNames ∧
      (selectRequired normalizer (.map (targets.overlay others)) table).result =
        .ok (table.keys.filter fun name => name ∈ names ∨ name ∈ otherNames)
  /-- The order of the targets does not matter. -/
  order : ∀ targets others : CanonicalTargets, Comparable targets → targets.Perm others →
    (selectRequired normalizer (.map others) table).result =
      (selectRequired normalizer (.map targets) table).result
  /-- Lesser versions keep every name that is selected. -/
  lower : ∀ targets lower : CanonicalTargets, Comparable targets → lower.AtMost targets →
    ∃ names lowerNames,
      (selectRequired normalizer (.map targets) table).result = .ok names ∧
      (selectRequired normalizer (.map lower) table).result = .ok lowerNames ∧
      names.Sublist lowerNames
  /-- For no targets every name is selected. -/
  empty : (selectRequired normalizer (.map []) table).result = .ok table.keys
  /-- The first target that is no number is refused, whatever a table has that is not empty. The
  failure shows its version; if that cannot be written, it is what hinders writing it. -/
  refused : ∀ (versions : Entries (Entries Value)) (before after : Entries Value)
    (environment : String) (value : Value), versions ≠ [] →
    usesShorthand (before ++ (environment, value) :: after) = false →
    (∀ entry ∈ before, ∃ n, Value.number? entry.2 = some n) → value.number? = none →
    ∃ failure, (selectRequired normalizer (.map (before ++ (environment, value) :: after))
        versions).result = .error failure ∧
      (value.obstacle? normalizer.writing.levels = none →
        failure = .versionNotNumber environment value) ∧
      ∀ obstacle, value.obstacle? normalizer.writing.levels = some obstacle →
        failure = obstacle ∧ (obstacle = .integerTooLong ∨ obstacle = .nestedTooDeeply)

/-- The check of versions fails for the first one that is no number. -/
theorem checkVersions_append (writing : Writing) {before after : Entries Value}
    {environment : String} {value : Value}
    (hbefore : ∀ entry ∈ before, ∃ n, Value.number? entry.2 = some n)
    (hvalue : value.number? = none) :
    checkVersions writing (before ++ (environment, value) :: after) =
      .error (value.showing writing.levels (.versionNotNumber environment value)) := by
  induction before with
  | nil => rw [List.nil_append, checkVersions, hvalue]
  | cons entry rest ih =>
    obtain ⟨⟨n, hn⟩, hrest⟩ := List.forall_mem_cons.1 hbefore
    rw [List.cons_append, checkVersions, hn]
    exact ih hrest

/-- Selection fails if no capability has an answer, for the same reason. -/
theorem selectRequired_error {targets : Value} {failure : Failure} (hsome : table ≠ [])
    (h : ∀ capability, (isRequired normalizer targets capability).result = .error failure) :
    (selectRequired normalizer targets table).result = .error failure := by
  cases table with
  | nil => exact absurd rfl hsome
  | cons entry rest => exact Traced.bind_result_error_iff.2 (.inl (h entry.2))

/-- Selection from a table of numbers goes environment by environment. -/
theorem selectRequired_byEnvironment (normalizer : Normalizer) (hdistinct : table.keys.Nodup)
    (hnumeric : ∀ entry ∈ table, NumericVersions entry.2) :
    SelectsByEnvironment normalizer table where
  union targets others htargets hothers hsome hsomeOthers hnodup hdisjoint := by
    refine ⟨_, _, htargets.selectRequired_eq normalizer hnumeric,
      hothers.selectRequired_eq normalizer hnumeric, ?_⟩
    rw [Entries.overlay_of_disjoint hnodup hdisjoint,
      (htargets.append hothers).selectRequired_eq normalizer hnumeric, Entries.keys,
      List.filter_map]
    refine congrArg Except.ok (congrArg (List.map Prod.fst) (List.filter_congr ?_))
    intro entry hentry
    rw [htargets.needs_append hothers hsome hsomeOthers (hnumeric entry hentry),
      Function.comp_apply, Bool.eq_iff_iff, Bool.or_eq_true, decide_eq_true_iff,
      Entries.mem_map_filter_iff hdistinct hentry, Entries.mem_map_filter_iff hdistinct hentry]
  order targets others htargets hperm := by
    have hothers : Comparable others := fun entry hentry => htargets entry (hperm.mem_iff.2 hentry)
    rw [htargets.selectRequired_eq normalizer hnumeric,
      hothers.selectRequired_eq normalizer hnumeric]
    refine congrArg Except.ok (congrArg (List.map Prod.fst) (List.filter_congr ?_))
    exact fun entry hentry => htargets.needs_perm hperm (hnumeric entry hentry)
  lower targets lower htargets hlower := by
    refine ⟨_, _, htargets.selectRequired_eq normalizer hnumeric,
      (hlower.comparable htargets).selectRequired_eq normalizer hnumeric, List.Sublist.map _ ?_⟩
    have hagain : (table.filter fun entry => needs normalizer (.map targets) entry.2) =
        (table.filter fun entry => needs normalizer (.map lower) entry.2).filter fun entry =>
          needs normalizer (.map targets) entry.2 := by
      rw [List.filter_filter]
      refine List.filter_congr fun entry hentry => (Bool.and_eq_left_iff_imp.2 ?_).symm
      exact hlower.needs htargets (hnumeric entry hentry)
    rw [hagain]
    exact List.filter_sublist
  empty := by
    have hnone : Comparable [] := fun _ hentry => absurd hentry List.not_mem_nil
    rw [hnone.selectRequired_eq normalizer hnumeric, List.filter_eq_self.2, Entries.keys]
    exact fun entry hentry => (hnone.needs_iff (hnumeric entry hentry)).2 (.inl rfl)
  refused versions before after environment value hsome hplain hbefore hvalue := by
    refine ⟨value.showing normalizer.writing.levels (.versionNotNumber environment value),
      selectRequired_error hsome fun capability => ?_, fun hwritten => ?_,
      fun obstacle hobstacle => ⟨?_, value.eq_of_obstacle? hobstacle⟩⟩
    · rw [isRequired_of_plain hplain]
      exact requiredFor_error (checkVersions_append normalizer.writing hbefore hvalue)
    · simp only [Value.showing, hwritten, Option.getD_none]
    · simp only [Value.showing, hobstacle, Option.getD_some]

/-- Selection from the shipped table of transformations goes environment by environment. -/
theorem shipped_selectRequired_byEnvironment :
    SelectsByEnvironment (Session.shipped 18).normalizer shippedTables.plugins.values := by
  have hdistinct : shippedTables.plugins.values.keys.Nodup := by
    decide +kernel
  exact selectRequired_byEnvironment (Session.shipped 18).normalizer hdistinct
    shippedTables.plugins.numericVersions_values

/-- A version that is a list with an integer of more digits than a text of one may have is refused
for these digits, and not as a version that is no number. -/
theorem selectRequired_longList :
    (selectRequired (Session.shipped 18).normalizer (.map [("chrome", .list [.int (10 ^ 5000)])])
      [("transform-a", [])]).result = .error .integerTooLong := by
  have hlong : isTooLong (10 ^ 5000) = true := by
    decide +kernel
  have hobstacle : (Value.list [.int (10 ^ 5000)]).obstacle? 979 = some .integerTooLong := by
    rw [Value.obstacle?, if_neg (by decide), Value.itemObstacle?, Value.obstacle?, if_pos hlong]
    rfl
  refine selectRequired_error (List.cons_ne_nil _ _) fun capability => ?_
  rw [isRequired_of_plain rfl]
  have hnone : ∀ entry ∈ ([] : Entries Value), ∃ n, Value.number? entry.2 = some n :=
    fun _ hentry => absurd hentry List.not_mem_nil
  have hshown : (Value.list [.int (10 ^ 5000)]).showing 979
      (.versionNotNumber "chrome" (.list [.int (10 ^ 5000)])) = .integerTooLong := by
    rw [Value.showing, hobstacle]
    rfl
  exact requiredFor_error
    ((checkVersions_append _ hnone rfl).trans (congrArg Except.error hshown))

end TransformPreset
