import TransformPreset.Proofs.Checks
import TransformPreset.Target.Reading

/-!
# What a table of targets may hold

Which values the entries of a table of targets may have, said without the reader: an electron
version (`IsElectron`), or what is asked of an environment (`IsConstraint`); the entry `browsers`
may have any value, unless it is one to warn of and nested too deeply for that (`TooDeepToWarn`).
Each entry is one check (`targetCheck`), and the reader makes these checks in the order of the table
(`TargetSpec.readEntries_decides`).
-/

namespace TransformPreset

/-- A value that is an electron version or stands for none. -/
inductive IsElectron : Value → Prop
  /-- Null stands for none. -/
  | null : IsElectron .null
  /-- So does false. -/
  | off : IsElectron (.bool false)
  /-- A text is one, whatever it says. -/
  | text (s : String) : IsElectron (.text s)
  /-- A binary64 number is one. -/
  | float (x : Binary64) : IsElectron (.float x)
  /-- An integer is one that can be written as a text. -/
  | int {n : Int} (hsize : n.natAbs < Nat.pow 10 maxDigits) : IsElectron (.int n)

/-- How another value is refused as an electron version, in what can be written. -/
inductive ElectronRefusal (writing : Writing) : Value → Failure → Prop
  /-- An integer has too many digits to be written. -/
  | tooLong {n : Int} (hsize : Nat.pow 10 maxDigits ≤ n.natAbs) :
    ElectronRefusal writing (.int n) .integerTooLong
  /-- Anything else is shown. -/
  | other {value : Value} (hvalue : ¬IsElectron value) (hint : ∀ n, value ≠ .int n) :
    ElectronRefusal writing value (value.showing writing.levels (.electronNotText value))

/-- A value that can be asked of an environment. -/
inductive IsConstraint (environment : String) : Value → Prop
  /-- True stands for the running version of the runtime. -/
  | on (hnode : environment = nodeKey) : IsConstraint environment (.bool true)
  /-- So does the marker. -/
  | marker (hnode : environment = nodeKey) : IsConstraint environment (.text currentMarker)
  /-- A binary64 number is a version. -/
  | float (x : Binary64) : IsConstraint environment (.float x)
  /-- An integer is one if it has a nearest binary64 number. -/
  | int {n : Int} {x : Binary64} (hrange : Binary64.ofInt? n = some x) :
    IsConstraint environment (.int n)

/-- How another value is refused for an environment, in what can be written. -/
inductive ConstraintRefusal (writing : Writing) (environment : String) : Value → Failure → Prop
  /-- An integer has no nearest binary64 number. -/
  | tooLarge {n : Int} (hrange : Binary64.ofInt? n = none) :
    ConstraintRefusal writing environment (.int n) .integerTooLarge
  /-- Anything else is shown. -/
  | other {value : Value} (hvalue : ¬IsConstraint environment value)
    (hint : ∀ n, value ≠ .int n) :
    ConstraintRefusal writing environment value
      (value.showing writing.levels (.versionNotNumber environment value))

/-- The browser queries that a value holds: a text, or a list of nothing but texts. -/
def Value.queries? (value : Value) : Option (List String) :=
  match value.text? with
  | some query => some [query]
  | none => value.texts?

/-- Whether a value is to be warned of, because it holds no queries, and is nested too deeply for
that. -/
structure TooDeepToWarn (writing : Writing) (value : Value) : Prop where
  /-- Warnings are written. -/
  warns : writing.warns = true
  /-- It holds no queries. -/
  queries : value.queries? = none
  /-- Its depth is what hinders writing it. -/
  depth : value.obstacle? writing.levels = some .nestedTooDeeply

variable {writing : Writing}

/-! ## Refused values -/

section

variable {environment : String} {value : Value} {failure other : Failure}

/-- An electron version is not refused. -/
theorem ElectronRefusal.not_isElectron (h : ElectronRefusal writing value failure) :
    ¬IsElectron value := by
  cases h with
  | tooLong hlong =>
    intro hvalue
    cases hvalue with
    | int hsize => exact absurd hlong (Nat.not_le_of_lt hsize)
  | other hvalue => exact hvalue

/-- Another value is refused in one way. -/
theorem ElectronRefusal.unique (h : ElectronRefusal writing value failure)
    (h' : ElectronRefusal writing value other) : other = failure := by
  cases h with
  | tooLong =>
    cases h' with
    | tooLong => rfl
    | other _ hint => exact absurd rfl (hint _)
  | other _ hint =>
    cases h' with
    | tooLong => exact absurd rfl (hint _)
    | other => rfl

/-- What can be asked of an environment is not refused. -/
theorem ConstraintRefusal.not_isConstraint
    (h : ConstraintRefusal writing environment value failure) :
    ¬IsConstraint environment value := by
  cases h with
  | tooLarge hnone =>
    intro hvalue
    cases hvalue with
    | int hrange => exact Option.some_ne_none _ (hrange.symm.trans hnone)
  | other hvalue => exact hvalue

/-- Another value is refused in one way. -/
theorem ConstraintRefusal.unique (h : ConstraintRefusal writing environment value failure)
    (h' : ConstraintRefusal writing environment value other) : other = failure := by
  cases h with
  | tooLarge =>
    cases h' with
    | tooLarge => rfl
    | other _ hint => exact absurd rfl (hint _)
  | other _ hint =>
    cases h' with
    | tooLarge => exact absurd rfl (hint _)
    | other => rfl

end

/-! ## Checks -/

/-- The check of the browser queries. -/
def browsersCheck (writing : Writing) (value : Value) : Check :=
  .demand (¬TooDeepToWarn writing value) .nestedTooDeeply

/-- The check of an electron version. -/
def electronCheck (writing : Writing) (value : Value) : Check where
  passes := IsElectron value
  refuses := ElectronRefusal writing value
  not_passes := ElectronRefusal.not_isElectron
  unique := ElectronRefusal.unique

/-- The check of what is asked of an environment. -/
def constraintCheck (writing : Writing) (environment : String) (value : Value) : Check where
  passes := IsConstraint environment value
  refuses := ConstraintRefusal writing environment value
  not_passes := ConstraintRefusal.not_isConstraint
  unique := ConstraintRefusal.unique

/-- The check of an entry of a table of targets. -/
def targetCheck (writing : Writing) (entry : String × Value) : Check :=
  if entry.1 = browsersKey then browsersCheck writing entry.2
  else if entry.1 = electronKey then electronCheck writing entry.2
  else constraintCheck writing entry.1 entry.2

/-- Reading an electron version is its check. -/
theorem readElectron_decides (writing : Writing) (value : Value) :
    Decides [electronCheck writing value] (readElectron writing value) := by
  cases value with
  | null => exact Check.decides_ok IsElectron.null _
  | bool b =>
    cases b with
    | false => exact Check.decides_ok IsElectron.off _
    | true => exact Check.decides_error (ElectronRefusal.other nofun nofun)
  | int n =>
    rw [readElectron]
    split
    · rename_i hlong
      exact Check.decides_error (ElectronRefusal.tooLong (of_decide_eq_true hlong))
    · rename_i hlong
      exact Check.decides_ok (IsElectron.int (Nat.lt_of_not_le fun h => hlong (decide_eq_true h))) _
  | float x => exact Check.decides_ok (IsElectron.float x) _
  | text s => exact Check.decides_ok (IsElectron.text s) _
  | _ => exact Check.decides_error (ElectronRefusal.other nofun nofun)

/-- A warning fails only where a value is nested too deeply for it. -/
theorem warnBrowsers_decides {value : Value} (hqueries : value.queries? = none) :
    Decides [browsersCheck writing value] (warnBrowsers writing value).result := by
  unfold warnBrowsers
  split
  · rename_i hwarns
    split
    · rename_i hnone
      exact Check.demand_ok (fun h => Option.some_ne_none _ (h.depth.symm.trans hnone)) _ _
    · rename_i hdeep
      exact Check.demand_error (not_not_intro ⟨hwarns, hqueries, hdeep⟩) _
    · rename_i hother hsome
      exact Check.demand_ok (fun h => hother (Option.some.inj (hsome.symm.trans h.depth))) _ _
  · rename_i hquiet
    exact Check.demand_ok (fun h => hquiet h.warns) _ _

/-- Reading browsers is their check, and a value of another shape holds no queries. -/
theorem readBrowsers_decides (writing : Writing) (value : Value) :
    Decides [browsersCheck writing value] (readBrowsers writing value).result := by
  unfold readBrowsers
  split
  · rename_i query hquery
    refine Check.demand_ok (fun h => ?_) _ _
    have hqueries := h.queries
    rw [Value.queries?, hquery] at hqueries
    cases hqueries
  · rename_i queries hnone hsome
    refine Check.demand_ok (fun h => ?_) _ _
    have hqueries := h.queries
    rw [Value.queries?, hnone, hsome] at hqueries
    cases hqueries
  · rename_i hnone hnot
    rw [Traced.bind_result]
    refine (warnBrowsers_decides ?_).bind fun _ _ => decides_ok allPass_nil _
    rw [Value.queries?, hnone, hnot]

/-- The queries that are read are those that the value holds. -/
theorem readBrowsers_ok {value : Value} {queries? : Option (List String)}
    (h : (readBrowsers writing value).result = .ok queries?) : queries? = value.queries? := by
  unfold readBrowsers at h
  unfold Value.queries?
  cases hquery : value.text? with
  | some query =>
    rw [hquery] at h
    exact (Except.ok.inj h).symm
  | none =>
    cases hqueries : value.texts? with
    | some queries =>
      rw [hquery, hqueries] at h
      exact (Except.ok.inj h).symm
    | none =>
      rw [hquery, hqueries] at h
      obtain ⟨-, -, h⟩ := Traced.bind_result_ok_iff.1 h
      exact (Except.ok.inj h).symm

/-- A value asks for the running version of the runtime if it is true or the marker. -/
theorem asksCurrent_cases {value : Value} (h : asksCurrent value = true) :
    value = .bool true ∨ value = .text currentMarker := by
  cases value with
  | bool b => exact .inl (congrArg Value.bool h)
  | text s => exact .inr (congrArg Value.text (eq_of_beq h))
  | _ => cases h

/-- Reading what is asked of an environment is its check. -/
theorem readConstraint_decides (writing : Writing) (environment : String) (value : Value) :
    Decides [constraintCheck writing environment value]
      (readConstraint writing environment value) := by
  unfold readConstraint
  split
  · rename_i hcurrent
    obtain ⟨hnode, hasks⟩ := hcurrent
    rcases asksCurrent_cases hasks with rfl | rfl
    · exact Check.decides_ok (IsConstraint.on hnode) _
    · exact Check.decides_ok (IsConstraint.marker hnode) _
  · rename_i hother
    cases value with
    | float x => exact Check.decides_ok (IsConstraint.float x) _
    | int n =>
      show Decides _ ((inRange (Binary64.ofInt? n)).map _)
      cases hrange : Binary64.ofInt? n with
      | some x => exact Check.decides_ok (IsConstraint.int hrange) _
      | none => exact Check.decides_error (ConstraintRefusal.tooLarge hrange)
    | bool b =>
      refine Check.decides_error (ConstraintRefusal.other (fun h => ?_) nofun)
      cases h with
      | on hnode => exact hother ⟨hnode, rfl⟩
    | text s =>
      refine Check.decides_error (ConstraintRefusal.other (fun h => ?_) nofun)
      cases h with
      | marker hnode => exact hother ⟨hnode, by decide⟩
    | _ => exact Check.decides_error (ConstraintRefusal.other nofun nofun)

namespace TargetSpec

/-- Reading an entry of a table of targets is its check. -/
theorem readEntry_decides (writing : Writing) (spec : TargetSpec) (key : String) (value : Value) :
    Decides [targetCheck writing (key, value)] (spec.readEntry writing key value).result := by
  unfold readEntry targetCheck
  split
  · rw [Traced.bind_result]
    exact (readBrowsers_decides writing value).bind fun queries _ => decides_ok allPass_nil _
  · split
    · rw [Traced.bind_result]
      exact (readElectron_decides writing value).bind fun electron _ => decides_ok allPass_nil _
    · rw [Traced.bind_result]
      exact (readConstraint_decides writing key value).bind fun c _ => decides_ok allPass_nil _

/-- Reading a table of targets makes the checks of its entries, in their order. -/
theorem readEntries_decides (writing : Writing) (spec : TargetSpec) (entries : Entries Value) :
    Decides (entries.map (targetCheck writing)) (spec.readEntries writing entries).result := by
  induction entries generalizing spec with
  | nil => exact decides_ok allPass_nil _
  | cons entry rest ih =>
    rw [readEntries, Traced.bind_result, List.map_cons]
    exact (readEntry_decides writing spec entry.1 entry.2).bind fun next _ => ih next

/-- What is expected of the refusals of values is expected of every failure of a table. -/
theorem readEntries_failsWith_of {expected : Failure → Prop} (spec : TargetSpec)
    {entries : Entries Value}
    (hbrowsers : ∀ value, (browsersKey, value) ∈ entries → TooDeepToWarn writing value →
      expected .nestedTooDeeply)
    (helectron : ∀ key value failure, (key, value) ∈ entries →
      ElectronRefusal writing value failure → expected failure)
    (hconstraint : ∀ key value failure, (key, value) ∈ entries →
      ConstraintRefusal writing key value failure → expected failure) :
    FailsWith expected (spec.readEntries writing entries).result := by
  refine (readEntries_decides writing spec entries).failsWith
    fun check hcheck failure hrefuses => ?_
  obtain ⟨⟨key, value⟩, hentry, rfl⟩ := List.mem_map.1 hcheck
  unfold targetCheck at hrefuses
  split at hrefuses
  · rename_i hkey
    obtain ⟨rfl, hdeep⟩ := hrefuses
    exact hbrowsers value (hkey ▸ hentry) (Classical.not_not.1 hdeep)
  · split at hrefuses
    · exact helectron key value failure hentry hrefuses
    · exact hconstraint key value failure hentry hrefuses

end TargetSpec

end TransformPreset
