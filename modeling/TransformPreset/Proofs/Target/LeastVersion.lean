import TransformPreset.Names
import TransformPreset.Proofs.Target.Release

/-!
# Least versions in closed form

A release of a known browser with an integer at the start of its version names an environment and a
version (`namedVersion?`). The map of least versions is made of these pairs alone, whatever other
releases stand among them (`lowestVersions_ok_iff`): its keys are the named environments, each at
its first place (`keys_takeVersions`), and the value of a key is the minimum of the versions that
are named for it (`get?_takeVersions`). So further releases take no environment away and raise no
version (`minVersion?_append`).
-/

namespace TransformPreset

/-! ## Named versions -/

/-- The environment and the version that a release names, if it is one of a known browser with an
integer at the start of its version. -/
def namedVersion? (release : String) : Option (String × Int) :=
  match browserEnvironments.get? (splitRelease release).1, leadingInt (splitRelease release).2 with
  | some environment, .ok (some n) => some (environment, n)
  | _, _ => none

/-- The environments and versions that releases name, in order. -/
def namedVersions (releases : List String) : List (String × Int) :=
  releases.filterMap namedVersion?

/-- The named versions of one environment. -/
def versionsOf (environment : String) (named : List (String × Int)) : List Int :=
  (named.filter fun version => version.1 = environment).map Prod.snd

/-- The least version that releases name for an environment, if they name one. -/
def minVersion? (releases : List String) (environment : String) : Option Int :=
  (versionsOf environment (namedVersions releases)).min?

/-- Whether the version of a release can be read: it has no integer at its start, or one that has
not too many digits. -/
def Release.Readable (release : String) : Prop :=
  ∃ n?, leadingInt (splitRelease release).2 = .ok n?

/-- Takes named versions into a map of least versions, one by one. -/
def takeVersions (lowest : Entries Int) (named : List (String × Int)) : Entries Int :=
  named.foldl (fun lowest version =>
    lowest.insert version.1 (lesserVersion lowest version.1 version.2)) lowest

/-! ## The map of least versions -/

/-- A release does to the map of least versions what its named version does. -/
theorem takeRelease_eq {lowest : Entries Int} {release : String} {n? : Option Int}
    (h : leadingInt (splitRelease release).2 = .ok n?) :
    takeRelease lowest (browserEnvironments.get? (splitRelease release).1) n? =
      takeVersions lowest (namedVersion? release).toList := by
  unfold takeRelease namedVersion?
  rw [h]
  cases browserEnvironments.get? (splitRelease release).1 with
  | none => rfl
  | some environment => cases n? <;> rfl

/-- Releases are taken in exactly if the version of each of them can be read, and then they do what
their named versions do. -/
theorem lowestFrom_ok_iff {lowest final : Entries Int} {releases : List String} :
    (lowestFrom lowest releases).result = .ok final ↔
      (∀ release ∈ releases, Release.Readable release) ∧
        final = takeVersions lowest (namedVersions releases) := by
  induction releases generalizing lowest with
  | nil =>
    rw [lowestFrom, Traced.pure_result, Except.ok.injEq, eq_comm]
    exact (and_iff_right fun _ hrelease => absurd hrelease List.not_mem_nil).symm
  | cons release rest ih =>
    -- The named version of the first release comes before those of the rest.
    have hnamed : takeVersions lowest (namedVersions (release :: rest)) =
        takeVersions (takeVersions lowest (namedVersion? release).toList) (namedVersions rest) := by
      unfold takeVersions namedVersions
      rw [← List.foldl_append, List.filterMap_cons]
      cases namedVersion? release <;> rfl
    rw [lowestFrom_cons_ok_iff, List.forall_mem_cons, hnamed]
    constructor
    · rintro ⟨n?, hn, h⟩
      obtain ⟨hrest, hfinal⟩ := ih.1 h
      exact ⟨⟨⟨n?, hn⟩, hrest⟩, by rw [hfinal, takeRelease_eq hn]⟩
    · rintro ⟨⟨⟨n?, hn⟩, hrest⟩, hfinal⟩
      exact ⟨n?, hn, ih.2 ⟨hrest, by rw [hfinal, takeRelease_eq hn]⟩⟩

/-- The least versions of releases are found exactly if the version of each of them can be read. -/
theorem lowestVersions_ok_iff {lowest : Entries Int} {releases : List String} :
    (lowestVersions releases).result = .ok lowest ↔
      (∀ release ∈ releases, Release.Readable release) ∧
        lowest = takeVersions [] (namedVersions releases) :=
  lowestFrom_ok_iff

/-- The keys of a map that named versions are taken into are followed by the named environments that
are new, each at its first place. -/
theorem keys_takeVersions (lowest : Entries Int) (named : List (String × Int)) :
    (takeVersions lowest named).keys =
      lowest.keys ++ firstPlaces lowest.keys (named.map Prod.fst) := by
  induction named generalizing lowest with
  | nil => exact (List.append_nil _).symm
  | cons version rest ih =>
    obtain ⟨environment, n⟩ := version
    have hstep : takeVersions lowest ((environment, n) :: rest) =
        takeVersions (lowest.insert environment (lesserVersion lowest environment n)) rest := rfl
    rw [hstep, ih, Entries.keys_insert, List.map_cons, firstPlaces]
    by_cases hmem : environment ∈ lowest.keys
    · rw [if_pos hmem, if_pos (List.contains_iff_mem.2 hmem)]
    · have hnew : ¬lowest.keys.contains environment = true := by
        rw [List.contains_iff_mem]
        exact hmem
      -- The environment stands at the end of the keys and at the front of the seen names.
      have hseen : ∀ name, name ∈ lowest.keys ++ [environment] ↔
          name ∈ environment :: lowest.keys := by
        intro name
        rw [List.mem_append, List.mem_singleton, List.mem_cons, or_comm]
      rw [if_neg hmem, if_neg hnew, firstPlaces_congr hseen, List.append_assoc,
        List.singleton_append]

/-- The environments of the least versions of releases are those that are named, each at its first
place. -/
theorem keys_leastVersions (releases : List String) :
    (takeVersions [] (namedVersions releases)).keys =
      distinct ((namedVersions releases).map Prod.fst) :=
  keys_takeVersions [] _

/-- The version of an environment, after named versions are taken in, is the minimum of those and of
the one that was there before. -/
theorem get?_takeVersions (lowest : Entries Int) (named : List (String × Int))
    (environment : String) :
    (takeVersions lowest named).get? environment =
      ((lowest.get? environment).toList ++ versionsOf environment named).min? := by
  induction named generalizing lowest with
  | nil =>
    rw [versionsOf, List.filter_nil, List.map_nil, List.append_nil]
    show lowest.get? environment = _
    cases lowest.get? environment <;> rfl
  | cons version rest ih =>
    obtain ⟨named, n⟩ := version
    have hstep : takeVersions lowest ((named, n) :: rest) =
        takeVersions (lowest.insert named (lesserVersion lowest named n)) rest := rfl
    rw [hstep, ih, Entries.get?_insert, versionsOf, versionsOf, List.filter_cons]
    by_cases hname : named = environment
    · subst hname
      have htest : decide (named = named) = true := decide_eq_true rfl
      rw [if_pos rfl, if_pos htest, List.map_cons, lesserVersion]
      cases lowest.get? named with
      | none => rfl
      | some old =>
        -- The running minimum takes the new version in before the later ones.
        have hmin : (if n < old then n else old) = min old n := by
          omega
        show ((if n < old then n else old) :: _).min? = (old :: n :: _).min?
        rw [hmin]
        rfl
    · have htest : ¬decide (named = environment) = true := by
        rw [decide_eq_true_eq]
        exact hname
      rw [if_neg hname, if_neg htest]

/-- The version of an environment in the map of least versions is the least that is named for it. -/
theorem get?_leastVersions (releases : List String) (environment : String) :
    (takeVersions [] (namedVersions releases)).get? environment =
      minVersion? releases environment :=
  get?_takeVersions [] _ environment

/-! ## Other and further releases -/

/-- Which environments are named does not depend on the order of releases, or on repetitions. -/
theorem mem_namedVersions_congr {releases others : List String}
    (h : ∀ release, release ∈ releases ↔ release ∈ others) (version : String × Int) :
    version ∈ namedVersions releases ↔ version ∈ namedVersions others := by
  simp only [namedVersions, List.mem_filterMap, h]

/-- Nor does the least version of an environment. -/
theorem minVersion?_congr {releases others : List String}
    (h : ∀ release, release ∈ releases ↔ release ∈ others) (environment : String) :
    minVersion? releases environment = minVersion? others environment := by
  have hversions : ∀ n, n ∈ versionsOf environment (namedVersions releases) ↔
      n ∈ versionsOf environment (namedVersions others) := by
    intro n
    simp only [versionsOf, List.mem_map, List.mem_filter, mem_namedVersions_congr h]
  refine Option.ext fun n => ?_
  simp only [minVersion?, List.min?_eq_some_iff, hversions]

/-- The minimum of two lists in sequence is the lesser of theirs. -/
theorem min?_append (versions more : List Int) :
    (versions ++ more).min? = versions.min?.merge min more.min? := by
  cases hversions : versions.min? with
  | none =>
    rw [List.min?_eq_none_iff.1 hversions, List.nil_append]
    cases more.min? <;> rfl
  | some m =>
    cases hmore : more.min? with
    | none =>
      rw [List.min?_eq_none_iff.1 hmore, List.append_nil, hversions]
      rfl
    | some k =>
      obtain ⟨hm, hmle⟩ := List.min?_eq_some_iff.1 hversions
      obtain ⟨hk, hkle⟩ := List.min?_eq_some_iff.1 hmore
      refine List.min?_eq_some_iff.2 ⟨?_, fun a ha => ?_⟩
      · rcases Int.le_total m k with hle | hle
        · rw [Int.min_eq_left hle]
          exact List.mem_append_left _ hm
        · rw [Int.min_eq_right hle]
          exact List.mem_append_right _ hk
      · rcases List.mem_append.1 ha with ha | ha
        · exact Int.le_trans (Int.min_le_left m k) (hmle a ha)
        · exact Int.le_trans (Int.min_le_right m k) (hkle a ha)

/-- The least version of releases in sequence is the lesser of theirs. -/
theorem minVersion?_append (releases more : List String) (environment : String) :
    minVersion? (releases ++ more) environment =
      (minVersion? releases environment).merge min (minVersion? more environment) := by
  unfold minVersion? namedVersions versionsOf
  rw [List.filterMap_append, List.filter_append, List.map_append, min?_append]

/-- Further releases leave an environment its least version or give it a lower one. -/
theorem exists_minVersion?_append {releases : List String} {environment : String} {k : Int}
    (h : minVersion? releases environment = some k) (more : List String) :
    ∃ m, m ≤ k ∧ minVersion? (releases ++ more) environment = some m := by
  rw [minVersion?_append, h]
  cases minVersion? more environment with
  | none => exact ⟨k, Int.le_refl k, rfl⟩
  | some n => exact ⟨min k n, Int.min_le_left k n, rfl⟩

end TransformPreset
