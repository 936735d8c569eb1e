import TransformPreset.Capability.Requirement
import TransformPreset.Proofs.Entries
import TransformPreset.Proofs.Outcome

/-!
# Which capabilities are selected

Selection runs through a table and asks for each capability whether it is required. It succeeds if
every question has an answer, and then lists the names of the capabilities that are required, in the
order of the table (`selectRequired_ok_iff`).

A capability is skipped only if every targeted environment is known to have it
(`requiredFor_eq_false_iff`). Targets that are numbers, under no shorthand key, are compared as they
are, and then every question about a table of versions has an answer (`Comparable.requiredFor_ok`).
-/

namespace TransformPreset

variable {normalizer : Normalizer} {targets : Value} {writing : Writing}

/-! ## Selection from a table -/

/-- Whether a capability is found to be required; a question without an answer counts as no. -/
def needs (normalizer : Normalizer) (targets : Value) (capability : Entries Value) : Bool :=
  match (isRequired normalizer targets capability).result with
  | .ok required => required
  | .error _ => false

/-- A capability is needed exactly if the answer is that it is required. -/
theorem needs_iff {capability : Entries Value} :
    needs normalizer targets capability = true ↔
      (isRequired normalizer targets capability).result = .ok true := by
  unfold needs
  split
  · rename_i required h
    rw [h, Except.ok.injEq]
  · rename_i failure h
    rw [h]
    simp

/-- Selection succeeds exactly if each capability has an answer, and lists the names of those that
are needed. -/
theorem selectRequired_ok_iff {table : Entries (Entries Value)} {names : List String} :
    (selectRequired normalizer targets table).result = .ok names ↔
      (∀ entry ∈ table, ∃ required,
        (isRequired normalizer targets entry.2).result = .ok required) ∧
      names = (table.filter fun entry => needs normalizer targets entry.2).map Prod.fst := by
  -- Selection asks for the first capability, then for the rest, and only then puts names together.
  induction table generalizing names with
  | nil => simp [selectRequired, eq_comm]
  | cons entry rest ih =>
    obtain ⟨name, capability⟩ := entry
    unfold selectRequired
    rw [Traced.bind_result_ok_iff]
    constructor
    · rintro ⟨required, hrequired, h⟩
      obtain ⟨others, hothers, h⟩ := Traced.bind_result_ok_iff.1 h
      obtain ⟨hanswers, hnames⟩ := ih.1 hothers
      refine ⟨List.forall_mem_cons.2 ⟨⟨required, hrequired⟩, hanswers⟩, ?_⟩
      have hneeds : needs normalizer targets capability = required := by
        unfold needs
        rw [hrequired]
      rw [Traced.pure_result, Except.ok.injEq] at h
      rw [← h, List.filter_cons, hneeds, hnames]
      cases required <;> rfl
    · rintro ⟨hanswers, hnames⟩
      obtain ⟨⟨required, hrequired⟩, hrest⟩ := List.forall_mem_cons.1 hanswers
      refine ⟨required, hrequired, ?_⟩
      rw [Traced.bind_result_ok_iff]
      refine ⟨_, ih.2 ⟨hrest, rfl⟩, ?_⟩
      have hneeds : needs normalizer targets capability = required := by
        unfold needs
        rw [hrequired]
      rw [hnames, List.filter_cons, hneeds]
      cases required <;> rfl

/-- A selected name is one with an entry that is required. -/
theorem mem_selectRequired {table : Entries (Entries Value)} {names : List String}
    (h : (selectRequired normalizer targets table).result = .ok names) {name : String} :
    name ∈ names ↔ ∃ capability, (name, capability) ∈ table ∧
      (isRequired normalizer targets capability).result = .ok true := by
  obtain ⟨-, rfl⟩ := selectRequired_ok_iff.1 h
  simp only [List.mem_map, List.mem_filter, needs_iff]
  constructor
  · rintro ⟨⟨name, capability⟩, hentry, rfl⟩
    exact ⟨capability, hentry⟩
  · rintro ⟨capability, hentry⟩
    exact ⟨(name, capability), hentry, rfl⟩

/-- A table requires a name for canonical targets if one of its entries under the name is found to
be required. -/
def CapabilityTable.Requires (table : CapabilityTable) (normalizer : Normalizer)
    (targets : CanonicalTargets) (name : String) : Prop :=
  ∃ capability, (name, capability) ∈ table ∧
    (isRequired normalizer (.map targets) capability.values).result = .ok true

/-- What is selected from a table of versions is what the table requires. -/
theorem mem_selectRequired_values {table : CapabilityTable} {canonical : CanonicalTargets}
    {names : List String}
    (h : (selectRequired normalizer (.map canonical) table.values).result = .ok names)
    {name : String} : name ∈ names ↔ table.Requires normalizer canonical name := by
  rw [mem_selectRequired h]
  unfold CapabilityTable.values CapabilityTable.Requires
  constructor
  · rintro ⟨capability, hentry, hrequired⟩
    obtain ⟨⟨n, versions⟩, hmem, heq⟩ := List.mem_map.1 hentry
    obtain ⟨rfl, rfl⟩ := Prod.mk.inj heq
    exact ⟨versions, hmem, hrequired⟩
  · rintro ⟨versions, hmem, hrequired⟩
    exact ⟨versions.values, List.mem_map.2 ⟨(name, versions), hmem, rfl⟩, hrequired⟩

/-- After a selection every capability of the table has an answer, and the answer is no for those
that the table does not require. -/
theorem not_required_of_selectRequired {table : CapabilityTable} {canonical : CanonicalTargets}
    {names : List String}
    (h : (selectRequired normalizer (.map canonical) table.values).result = .ok names)
    {entry : String × Capability} (hentry : entry ∈ table)
    (hnot : ¬table.Requires normalizer canonical entry.1) :
    (isRequired normalizer (.map canonical) entry.2.values).result = .ok false := by
  obtain ⟨required, hrequired⟩ := (selectRequired_ok_iff.1 h).1 (entry.1, entry.2.values)
    (List.mem_map.2 ⟨entry, hentry, rfl⟩)
  cases required with
  | false => exact hrequired
  | true => exact absurd ⟨entry.2, hentry, hrequired⟩ hnot

/-! ## The decision for one capability -/

/-- The versions of targets pass their check exactly if all of them are numbers. -/
theorem checkVersions_ok_iff {canonical : CanonicalTargets} :
    checkVersions writing canonical = .ok () ↔
      ∀ entry ∈ canonical, ∃ n, Value.number? entry.2 = some n := by
  induction canonical with
  | nil => simp [checkVersions]
  | cons entry rest ih =>
    obtain ⟨environment, value⟩ := entry
    rw [List.forall_mem_cons, ← ih, checkVersions]
    cases h : value.number? <;> simp

/-- A targeted version is known to be enough exactly if the capability has a version there that it
is not less than. -/
theorem lacks_eq_false_iff {capability : Entries Value} {environment : String} {targeted : Value} :
    lacks capability environment targeted = .ok false ↔
      ∃ implemented a b, capability.get? environment = some implemented ∧
        targeted.ordinal? = some a ∧ implemented.ordinal? = some b ∧ a.lt b = false := by
  unfold lacks
  split
  · rename_i h
    simp [h]
  · rename_i h
    simp [h, Value.ordinal?, Value.number?]
  · rename_i implemented hnull h
    rw [h]
    cases ha : targeted.ordinal? <;> cases hb : implemented.ordinal? <;> simp [hb]

/-- A targeted version is found to be too little exactly if the capability has no version there, or
one that it is less than. -/
theorem lacks_eq_true_iff {capability : Entries Value} {environment : String} {targeted : Value} :
    lacks capability environment targeted = .ok true ↔
      (capability.get? environment).getD .null = .null ∨
      ∃ implemented a b, capability.get? environment = some implemented ∧
        targeted.ordinal? = some a ∧ implemented.ordinal? = some b ∧ a.lt b = true := by
  unfold lacks
  split
  · rename_i h
    simp [h]
  · rename_i h
    simp [h]
  · rename_i implemented hnull h
    have hthere : implemented ≠ .null := hnull
    rw [h]
    cases ha : targeted.ordinal? <;> cases hb : implemented.ordinal? <;> simp [hb, hthere]

/-- No target lacks the capability exactly if each of them is found not to. -/
theorem someLacks_eq_false_iff {capability : Entries Value} {canonical : CanonicalTargets} :
    someLacks capability canonical = .ok false ↔
      ∀ entry ∈ canonical, lacks capability entry.1 entry.2 = .ok false := by
  induction canonical with
  | nil => simp [someLacks]
  | cons entry rest ih =>
    obtain ⟨environment, targeted⟩ := entry
    unfold someLacks
    rw [List.forall_mem_cons, except_bind_ok_iff, ← ih]
    constructor
    · rintro ⟨found, hfound, h⟩
      -- A first target that lacks the capability would have ended the search with a yes.
      cases found with
      | true => simp [Pure.pure, Except.pure] at h
      | false => exact ⟨hfound, h⟩
    · rintro ⟨hfound, h⟩
      exact ⟨false, hfound, h⟩

/-- Targets of which some is found to lack a capability hold such a one. -/
theorem exists_lacks_of_someLacks {capability : Entries Value} {canonical : CanonicalTargets}
    (h : someLacks capability canonical = .ok true) :
    ∃ entry ∈ canonical, lacks capability entry.1 entry.2 = .ok true := by
  induction canonical with
  | nil => cases h
  | cons entry rest ih =>
    obtain ⟨found, hfound, h⟩ := except_bind_ok_iff.1 h
    cases found with
    | true => exact ⟨entry, List.mem_cons_self, hfound⟩
    | false =>
      obtain ⟨later, hlater, hlacks⟩ := ih h
      exact ⟨later, List.mem_cons_of_mem _ hlater, hlacks⟩

/-- A capability that is required for some targets is lacked by one of them. -/
theorem exists_lacks_of_requiredFor {capability : Entries Value} {canonical : CanonicalTargets}
    (hsome : canonical ≠ []) (h : requiredFor writing canonical capability = .ok true) :
    ∃ entry ∈ canonical, lacks capability entry.1 entry.2 = .ok true := by
  rw [requiredFor, if_neg (mt List.isEmpty_iff.1 hsome)] at h
  obtain ⟨-, -, hlacks⟩ := except_bind_ok_iff.1 h
  exact exists_lacks_of_someLacks hlacks

/-- A capability is not required exactly if there are targets, all of them are numbers, and none of
them lacks it. -/
theorem requiredFor_eq_false_iff {capability : Entries Value} {canonical : CanonicalTargets} :
    requiredFor writing canonical capability = .ok false ↔
      canonical ≠ [] ∧ (∀ entry ∈ canonical, ∃ n, Value.number? entry.2 = some n) ∧
        ∀ entry ∈ canonical, lacks capability entry.1 entry.2 = .ok false := by
  unfold requiredFor
  rw [← checkVersions_ok_iff, ← someLacks_eq_false_iff]
  cases canonical with
  | nil => simp
  | cons entry rest =>
    rw [List.isEmpty_cons, if_neg Bool.false_ne_true, except_bind_ok_iff]
    exact ⟨fun ⟨_, h⟩ => ⟨List.cons_ne_nil _ _, h⟩, fun ⟨_, h⟩ => ⟨(), h⟩⟩

/-! ## Comparable targets -/

/-- A number asks for no running version. -/
theorem asksCurrent_eq_false {value : Value} {n : Number} (h : value.number? = some n) :
    asksCurrent value = false := by
  rw [Value.eq_ofNumber_of_number? h]
  cases n <;> rfl

/-- Targets under no key of a shorthand use a shorthand only if they ask for the running version. -/
theorem usesShorthand_eq {canonical : CanonicalTargets}
    (h : ∀ entry ∈ canonical, entry.1 ∉ shorthandKeys) :
    usesShorthand canonical = (canonical.get? nodeKey).any asksCurrent := by
  have hkeys : shorthandKeys.any (Entries.has canonical) = false := by
    rw [List.any_eq_false]
    intro key hkey hhas
    rw [Entries.has_iff, Entries.keys, List.mem_map] at hhas
    obtain ⟨entry, hentry, rfl⟩ := hhas
    exact h entry hentry hkey
  rw [usesShorthand, hkeys, Bool.false_or]

/-- A number is compared as it is. -/
theorem Value.ordinal?_of_number? {value : Value} {n : Number} (h : value.number? = some n) :
    value.ordinal? = some n := by
  rw [eq_ofNumber_of_number? h]
  cases n <;> rfl

/-- A number lacks a capability if that has no version for the environment, or a greater one. -/
theorem lacks_values (capability : Capability) (environment : String) {targeted : Value}
    {n : Number} (hn : targeted.number? = some n) :
    lacks capability.values environment targeted =
      .ok ((capability.get? environment).all fun version => n.lt version) := by
  unfold lacks Capability.values
  rw [Entries.get?_map, Value.ordinal?_of_number? hn]
  cases capability.get? environment with
  | none => rfl
  | some version => cases version <;> rfl

/-- Whether all versions of a capability are numbers. -/
def NumericVersions (capability : Entries Value) : Prop :=
  ∀ entry ∈ capability, ∃ n, Value.number? entry.2 = some n

/-- All versions of a table of versions are numbers. -/
theorem CapabilityTable.numericVersions_values (table : CapabilityTable) :
    ∀ entry ∈ table.values, NumericVersions entry.2 := by
  intro entry hentry
  obtain ⟨⟨name, capability⟩, -, rfl⟩ := List.mem_map.1 hentry
  intro version hversion
  obtain ⟨⟨environment, n⟩, -, rfl⟩ := List.mem_map.1 hversion
  exact ⟨n, Value.number?_ofNumber n⟩

/-- Canonical targets that can be compared as they are: numbers, under no key of a shorthand. -/
def Comparable (canonical : CanonicalTargets) : Prop :=
  ∀ entry ∈ canonical, entry.1 ∉ shorthandKeys ∧ ∃ n, Value.number? entry.2 = some n

namespace Comparable

variable {canonical : CanonicalTargets}

/-- Comparable targets use no shorthand. -/
theorem usesShorthand_eq_false (h : Comparable canonical) : usesShorthand canonical = false := by
  rw [usesShorthand_eq fun entry hentry => (h entry hentry).1]
  cases hnode : canonical.get? nodeKey with
  | none => rfl
  | some value =>
    obtain ⟨-, n, hn⟩ := h _ (Entries.mem_of_get? hnode)
    exact asksCurrent_eq_false hn

/-- Comparable targets are compared as they are. -/
theorem isRequired_eq (h : Comparable canonical) (normalizer : Normalizer)
    (capability : Entries Value) :
    isRequired normalizer (.map canonical) capability =
      Traced.of (requiredFor normalizer.writing canonical capability) := by
  have hcomparable : comparableTargets normalizer (.map canonical) = pure canonical := by
    rw [comparableTargets, h.usesShorthand_eq_false, if_neg Bool.false_ne_true]
  unfold isRequired
  rw [hcomparable, pure_bind]

/-- Comparing a number with an entry of numbers has an answer. -/
theorem lacks_ok {capability : Entries Value} {targeted : Value} {n : Number}
    (hn : targeted.number? = some n) (hversions : NumericVersions capability)
    (environment : String) : ∃ found, lacks capability environment targeted = .ok found := by
  unfold lacks
  rw [Value.ordinal?_of_number? hn]
  split
  · exact ⟨true, rfl⟩
  · exact ⟨true, rfl⟩
  · rename_i implemented _ hget
    obtain ⟨m, hm⟩ := hversions _ (Entries.mem_of_get? hget)
    exact ⟨n.lt m, by rw [Value.ordinal?_of_number? hm]⟩

/-- Comparing comparable targets with an entry of numbers has an answer. -/
theorem someLacks_ok {capability : Entries Value} (h : Comparable canonical)
    (hversions : NumericVersions capability) :
    ∃ found, someLacks capability canonical = .ok found := by
  induction canonical with
  | nil => exact ⟨false, rfl⟩
  | cons entry rest ih =>
    obtain ⟨environment, targeted⟩ := entry
    obtain ⟨⟨-, n, hn⟩, hrest⟩ := List.forall_mem_cons.1 h
    obtain ⟨found, hfound⟩ := lacks_ok hn hversions environment
    obtain ⟨others, hothers⟩ := ih hrest
    unfold someLacks
    simp only [except_bind_ok_iff]
    -- The other targets are only looked at if the first one does not lack the capability.
    cases found with
    | true => exact ⟨true, true, hfound, rfl⟩
    | false => exact ⟨others, false, hfound, hothers⟩

/-- Whether an entry of numbers is required for comparable targets has an answer. -/
theorem requiredFor_ok {capability : Entries Value} (h : Comparable canonical)
    (hversions : NumericVersions capability) (writing : Writing) :
    ∃ required, requiredFor writing canonical capability = .ok required := by
  unfold requiredFor
  split
  · exact ⟨true, rfl⟩
  · obtain ⟨found, hfound⟩ := h.someLacks_ok hversions
    refine ⟨found, except_bind_ok_iff.2 ⟨(), ?_, hfound⟩⟩
    exact checkVersions_ok_iff.2 fun entry hentry => (h entry hentry).2

/-- Selection from a table of numbers for comparable targets lists the names of the capabilities
that are needed. -/
theorem selectRequired_eq (h : Comparable canonical) (normalizer : Normalizer)
    {table : Entries (Entries Value)} (hnumeric : ∀ entry ∈ table, NumericVersions entry.2) :
    (selectRequired normalizer (.map canonical) table).result =
      .ok ((table.filter fun entry => needs normalizer (.map canonical) entry.2).map Prod.fst) := by
  refine selectRequired_ok_iff.2 ⟨fun entry hentry => ?_, rfl⟩
  obtain ⟨required, hrequired⟩ := h.requiredFor_ok (hnumeric entry hentry) normalizer.writing
  exact ⟨required, by rw [h.isRequired_eq, Traced.of_result, hrequired]⟩

/-- Selection from a table of versions for comparable targets succeeds. -/
theorem selectRequired_ok (h : Comparable canonical) (normalizer : Normalizer)
    (table : CapabilityTable) :
    ∃ names, (selectRequired normalizer (.map canonical) table.values).result = .ok names :=
  ⟨_, h.selectRequired_eq normalizer table.numericVersions_values⟩

end Comparable

end TransformPreset
