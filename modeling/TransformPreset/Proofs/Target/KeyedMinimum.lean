import Mathlib.Order.Bounds.Defs
import TransformPreset.Proofs.Names
import TransformPreset.Proofs.Number.Leading
import TransformPreset.Proofs.Target.LeastVersion

/-!
# Least versions as a keyed minimum

Said without the reader, a release names an environment and a version if the text before its first
space is a known browser and the rest starts with an integer of admissible length (`NamesVersion`).
The map of least versions is found unless a version is too long, whatever stands before it, and then
has the least of the named versions under each named environment, in the order in which the
environments are first named (`IsKeyedMinimum`). So releases in sequence have the pointwise minimum
of their maps, their order and repetition only matter to the order of the map, and releases that
name nothing do not matter at all (`lowestVersions_keyedMinimum`).
-/

namespace TransformPreset

/-! ## What a release names -/

/-- How a release is divided into a name and the text after it: at its first space, or behind its
last character if it has none. -/
inductive Divides (release : String) : String → List Char → Prop
  /-- The release has a space, and the name has none. -/
  | atSpace {name : String} {version : List Char}
    (htext : release.toList = name.toList ++ ' ' :: version) (hfirst : ' ' ∉ name.toList) :
    Divides release name version
  /-- The release has no space. -/
  | whole (hnone : ' ' ∉ release.toList) : Divides release release []

/-- Whether the version of a release has more digits than an integer may have. -/
def Overlong (release : String) : Prop :=
  ∃ name version negative digits, Divides release name version ∧
    StartsWithInt version negative digits ∧ maxDigits < digits.length

/-- Whether a release names an environment and a version of it. -/
def NamesVersion (release environment : String) (n : Int) : Prop :=
  ∃ name version negative digits, Divides release name version ∧
    browserEnvironments.get? name = some environment ∧
    StartsWithInt version negative digits ∧ digits.length ≤ maxDigits ∧
    n = signedInt negative digits

/-- Whether an environment is named by releases before another one is. -/
def NamedBefore (releases : List String) (environment other : String) : Prop :=
  ∃ before release after n, releases = before ++ release :: after ∧
    NamesVersion release environment n ∧
    ∀ earlier ∈ before ++ [release], ∀ m, ¬NamesVersion earlier other m

/-- A map that has, under each environment that releases name, the least of its versions. -/
structure IsKeyedMinimum (releases : List String) (lowest : Entries Int) : Prop where
  /-- The keys are the named environments. -/
  mem_keys : ∀ environment, environment ∈ lowest.keys ↔
    ∃ release ∈ releases, ∃ n, NamesVersion release environment n
  /-- They come in the order in which they are first named. -/
  order : lowest.keys.Pairwise (NamedBefore releases)
  /-- No environment comes twice. -/
  nodup : lowest.keys.Nodup
  /-- The value of an environment is the least version that is named for it. -/
  least : ∀ environment n, lowest.get? environment = some n ↔
    IsLeast {m | ∃ release ∈ releases, NamesVersion release environment m} n

/-- What a map of least versions is to be for every list of releases. -/
structure KeyedMinimumLaws (lowestOf : List String → Except Failure (Entries Int)) : Prop where
  /-- There is none exactly if a version is too long, whether its browser is known or not. -/
  fails_iff : ∀ releases, (∃ failure, lowestOf releases = .error failure) ↔
    ∃ release ∈ releases, Overlong release
  /-- That is a failure of values. -/
  kind : ∀ releases failure, lowestOf releases = .error failure → failure.kind = .value
  /-- Otherwise it is the keyed minimum. -/
  minimum : ∀ releases lowest, lowestOf releases = .ok lowest → IsKeyedMinimum releases lowest
  /-- Releases in sequence have the pointwise minimum of their maps. -/
  append : ∀ releases more lowest lowestMore, lowestOf releases = .ok lowest →
    lowestOf more = .ok lowestMore → ∃ both, lowestOf (releases ++ more) = .ok both ∧
      ∀ environment, both.get? environment =
        (lowest.get? environment).merge min (lowestMore.get? environment)
  /-- The same releases in another order or with repetitions have the same map but for the order of
  its keys. -/
  congr : ∀ releases others, (∀ release, release ∈ releases ↔ release ∈ others) →
    ∀ lowest, lowestOf releases = .ok lowest →
      ∃ same, lowestOf others = .ok same ∧ same.Perm lowest
  /-- A release that names nothing, with a version of admissible length, changes nothing. -/
  drop : ∀ before release after, ¬Overlong release →
    (∀ environment n, ¬NamesVersion release environment n) →
      lowestOf (before ++ release :: after) = lowestOf (before ++ after)

/-! ## Releases and what the reader makes of them -/

section

variable {release environment : String} {n : Int}

/-- A release is divided as it is split. -/
theorem Divides.splitRelease_eq {name : String} {version : List Char}
    (h : Divides release name version) : splitRelease release = (name, version) := by
  unfold splitRelease
  cases h with
  | atSpace htext hfirst =>
    rw [partitionAt_eq_some_iff.2 ⟨htext, hfirst⟩]
    dsimp only
    rw [String.ofList_toList, Option.getD_some]
  | whole hnone =>
    rw [partitionAt_eq_none_iff.2 ⟨rfl, hnone⟩]
    dsimp only
    rw [String.ofList_toList, Option.getD_none]

/-- Every release is divided in one way. -/
theorem divides_splitRelease (release : String) :
    Divides release (splitRelease release).1 (splitRelease release).2 := by
  unfold splitRelease
  cases hsplit : partitionAt ' ' release.toList with
  | mk before after? =>
    cases after? with
    | some after =>
      obtain ⟨htext, hfirst⟩ := partitionAt_eq_some_iff.1 hsplit
      refine .atSpace ?_ ?_
      · rwa [String.toList_ofList]
      · rwa [String.toList_ofList]
    | none =>
      obtain ⟨htext, hnone⟩ := partitionAt_eq_none_iff.1 hsplit
      dsimp only
      rw [← htext, String.ofList_toList]
      exact .whole hnone

/-- The version of a release can be read exactly if it is not too long. -/
theorem readable_iff : Release.Readable release ↔ ¬Overlong release := by
  constructor
  · rintro ⟨n?, hn⟩ ⟨name, version, negative, digits, hdivides, hstart, hlong⟩
    rw [hdivides.splitRelease_eq, hstart.leadingInt_eq, if_pos hlong] at hn
    cases hn
  · intro hfits
    rcases leadingInt_cases (splitRelease release).2 with ⟨negative, digits, hstart⟩ | hnone
    · have hshort : ¬maxDigits < digits.length := fun hlong =>
        hfits ⟨_, _, negative, digits, divides_splitRelease release, hstart, hlong⟩
      exact ⟨_, hstart.leadingInt_eq.trans (if_neg hshort)⟩
    · exact ⟨none, hnone⟩

/-- A release names what the reader finds in it. -/
theorem namesVersion_iff :
    NamesVersion release environment n ↔ namedVersion? release = some (environment, n) := by
  unfold namedVersion?
  constructor
  · rintro ⟨name, version, negative, digits, hdivides, hname, hstart, hshort, rfl⟩
    rw [hdivides.splitRelease_eq, hname, hstart.leadingInt_eq, if_neg (Nat.not_lt.2 hshort)]
  · intro h
    split at h
    · rename_i other m hname hint
      obtain ⟨rfl, rfl⟩ := Prod.mk.inj (Option.some.inj h)
      rcases leadingInt_cases (splitRelease release).2 with ⟨negative, digits, hstart⟩ | hnone
      · rw [hstart.leadingInt_eq] at hint
        split at hint
        · cases hint
        · rename_i hshort
          exact ⟨_, _, negative, digits, divides_splitRelease release, hname, hstart,
            Nat.not_lt.1 hshort, (Option.some.inj (Except.ok.inj hint)).symm⟩
      · rw [hnone] at hint
        cases hint
    · cases h

/-- A release names one environment. -/
theorem NamesVersion.unique {other : String} {m : Int} (h : NamesVersion release environment n)
    (h' : NamesVersion release other m) : other = environment := by
  have hsame := (namesVersion_iff.1 h').symm.trans (namesVersion_iff.1 h)
  exact (Prod.mk.inj (Option.some.inj hsame)).1

end

variable {releases : List String} {environment other : String} {n : Int}

/-- The named versions of releases are those that one of them names. -/
theorem mem_namedVersions :
    (environment, n) ∈ namedVersions releases ↔
      ∃ release ∈ releases, NamesVersion release environment n := by
  simp only [namedVersions, List.mem_filterMap, namesVersion_iff]

/-- The environments that releases name. -/
theorem mem_namedEnvironments :
    environment ∈ (namedVersions releases).map Prod.fst ↔
      ∃ release ∈ releases, ∃ n, NamesVersion release environment n := by
  rw [List.mem_map]
  constructor
  · rintro ⟨⟨named, m⟩, hmem, rfl⟩
    obtain ⟨release, hrelease, hnames⟩ := mem_namedVersions.1 hmem
    exact ⟨release, hrelease, m, hnames⟩
  · rintro ⟨release, hrelease, m, hnames⟩
    exact ⟨(environment, m), mem_namedVersions.2 ⟨release, hrelease, hnames⟩, rfl⟩

/-- A release in front that does not name the other environment leaves which of two is named
first. -/
theorem NamedBefore.cons (h : NamedBefore releases environment other) {release : String}
    (hnot : ∀ m, ¬NamesVersion release other m) :
    NamedBefore (release :: releases) environment other := by
  obtain ⟨before, first, after, m, rfl, hnames, hearlier⟩ := h
  exact ⟨release :: before, first, after, m, rfl, hnames, List.forall_mem_cons.2 ⟨hnot, hearlier⟩⟩

/-- An environment that comes first among those that are named is named first. -/
theorem namedBefore_of_idxOf_lt
    (hmem : environment ∈ (namedVersions releases).map Prod.fst)
    (hlt : ((namedVersions releases).map Prod.fst).idxOf environment <
      ((namedVersions releases).map Prod.fst).idxOf other) :
    NamedBefore releases environment other := by
  induction releases with
  | nil => exact absurd hmem List.not_mem_nil
  | cons release rest ih =>
    cases hnamed : namedVersion? release with
    | none =>
      have hsame : namedVersions (release :: rest) = namedVersions rest :=
        List.filterMap_cons_none hnamed
      rw [hsame] at hmem hlt
      refine (ih hmem hlt).cons fun m hnames => ?_
      rw [namesVersion_iff.1 hnames] at hnamed
      cases hnamed
    | some version =>
      obtain ⟨first, k⟩ := version
      have hsame : namedVersions (release :: rest) = (first, k) :: namedVersions rest :=
        List.filterMap_cons_some hnamed
      have hfirst : NamesVersion release first k := namesVersion_iff.2 hnamed
      rw [hsame, List.map_cons] at hmem hlt
      -- What the first release names has the first place, so it is not the other environment.
      have hother : first ≠ other := by
        rintro rfl
        rw [List.idxOf_cons_self] at hlt
        exact absurd hlt (Nat.not_lt_zero _)
      have hnot : ∀ m, ¬NamesVersion release other m := fun m hnames =>
        hother (hnames.unique hfirst)
      by_cases henvironment : first = environment
      · subst henvironment
        exact ⟨[], release, rest, k, rfl, hfirst, List.forall_mem_singleton.2 hnot⟩
      · rw [List.idxOf_cons_ne _ henvironment, List.idxOf_cons_ne _ hother] at hlt
        have hrest := (List.mem_cons.1 hmem).resolve_left (Ne.symm henvironment)
        exact (ih hrest (Nat.lt_of_succ_lt_succ hlt)).cons hnot

/-! ## The minimum -/

/-- A version is one of an environment exactly if it is named for it. -/
theorem mem_versionsOf {named : List (String × Int)} :
    n ∈ versionsOf environment named ↔ (environment, n) ∈ named := by
  unfold versionsOf
  rw [List.mem_map]
  constructor
  · rintro ⟨⟨name, m⟩, hmem, rfl⟩
    obtain ⟨hmem, hname⟩ := List.mem_filter.1 hmem
    rw [← of_decide_eq_true hname]
    exact hmem
  · intro hmem
    exact ⟨(environment, n), List.mem_filter.2 ⟨hmem, decide_eq_true rfl⟩, rfl⟩

/-- The least version that releases name for an environment is the least one of them. -/
theorem minVersion?_eq_some_iff :
    minVersion? releases environment = some n ↔
      IsLeast {m | ∃ release ∈ releases, NamesVersion release environment m} n := by
  unfold minVersion?
  rw [List.min?_eq_some_iff]
  simp only [mem_versionsOf, mem_namedVersions]
  exact Iff.rfl

/-- The map of least versions of releases is their keyed minimum. -/
theorem isKeyedMinimum (releases : List String) :
    IsKeyedMinimum releases (takeVersions [] (namedVersions releases)) where
  mem_keys environment := by
    rw [keys_leastVersions, mem_distinct, mem_namedEnvironments]
  order := by
    rw [keys_leastVersions]
    have hplaces := atFirstPlaces_distinct ((namedVersions releases).map Prod.fst)
    exact hplaces.rises.imp_of_mem fun ha _ hlt =>
      namedBefore_of_idxOf_lt ((hplaces.mem _).1 ha) hlt
  nodup := by
    rw [keys_leastVersions]
    exact nodup_distinct _
  least environment n := by
    rw [get?_leastVersions, minVersion?_eq_some_iff]

/-! ## The laws -/

/-- What releases do to the map behind others is decided by what they do to any map. -/
theorem result_lowestFrom_append_congr {after after' : List String}
    (h : ∀ lowest, (lowestFrom lowest after).result = (lowestFrom lowest after').result)
    (before : List String) (lowest : Entries Int) :
    (lowestFrom lowest (before ++ after)).result =
      (lowestFrom lowest (before ++ after')).result := by
  induction before generalizing lowest with
  | nil => exact h lowest
  | cons release rest ih =>
    rw [List.cons_append, List.cons_append, result_lowestFrom_cons, result_lowestFrom_cons]
    exact congrArg _ (funext fun n? => ih _)

/-- A release that can be read and names nothing leaves the map. -/
theorem result_lowestFrom_of_names_nothing {release : String} (hfits : ¬Overlong release)
    (hnone : ∀ environment n, ¬NamesVersion release environment n) (lowest : Entries Int)
    (rest : List String) :
    (lowestFrom lowest (release :: rest)).result = (lowestFrom lowest rest).result := by
  obtain ⟨n?, hn⟩ := readable_iff.2 hfits
  have hnamed : namedVersion? release = none :=
    Option.eq_none_iff_forall_ne_some.2 fun version heq =>
      hnone version.1 version.2 (namesVersion_iff.2 heq)
  rw [result_lowestFrom_cons, hn]
  show (lowestFrom (takeRelease lowest _ n?) rest).result = _
  rw [takeRelease_eq hn, hnamed]
  rfl

/-- The map of least versions is a keyed minimum: it is found unless a version is too long, and
then depends on nothing but which versions are named. -/
theorem lowestVersions_keyedMinimum :
    KeyedMinimumLaws fun releases => (lowestVersions releases).result where
  fails_iff releases := by
    constructor
    · rintro ⟨failure, hfailure⟩
      by_contra hnone
      have hread : ∀ release ∈ releases, Release.Readable release := fun release hrelease =>
        readable_iff.2 fun hlong => hnone ⟨release, hrelease, hlong⟩
      have hok := lowestVersions_ok_iff.2 ⟨hread, rfl⟩
      rw [hok] at hfailure
      cases hfailure
    · rintro ⟨release, hrelease, hlong⟩
      cases hresult : (lowestVersions releases).result with
      | ok lowest =>
        obtain ⟨hread, -⟩ := lowestVersions_ok_iff.1 hresult
        exact absurd hlong (readable_iff.1 (hread release hrelease))
      | error failure => exact ⟨failure, rfl⟩
  kind releases failure h :=
    List.mem_singleton.1 (lowestFrom_failsWith [] releases failure h)
  minimum releases lowest h := by
    obtain ⟨-, rfl⟩ := lowestVersions_ok_iff.1 h
    exact isKeyedMinimum releases
  append releases more lowest lowestMore h hmore := by
    obtain ⟨hread, rfl⟩ := lowestVersions_ok_iff.1 h
    obtain ⟨hreadMore, rfl⟩ := lowestVersions_ok_iff.1 hmore
    refine ⟨_, lowestVersions_ok_iff.2 ⟨List.forall_mem_append.2 ⟨hread, hreadMore⟩, rfl⟩, ?_⟩
    intro environment
    rw [get?_leastVersions, get?_leastVersions, get?_leastVersions, minVersion?_append]
  congr releases others hsame lowest h := by
    obtain ⟨hread, rfl⟩ := lowestVersions_ok_iff.1 h
    refine ⟨_, lowestVersions_ok_iff.2 ⟨fun release hrelease =>
      hread release ((hsame release).2 hrelease), rfl⟩, ?_⟩
    refine Entries.perm_of_get? (isKeyedMinimum others).nodup (isKeyedMinimum releases).nodup ?_
    intro environment
    rw [get?_leastVersions, get?_leastVersions, minVersion?_congr hsame]
  drop before release after hfits hnone :=
    result_lowestFrom_append_congr (fun lowest =>
      result_lowestFrom_of_names_nothing hfits hnone lowest after) before []

end TransformPreset
