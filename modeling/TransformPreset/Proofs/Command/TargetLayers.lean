import TransformPreset.Proofs.Command.TargetArguments
import TransformPreset.Proofs.Settings.Layer
import TransformPreset.Proofs.Target.Meaning

/-!
# Target arguments over a settings file

The targets of the command line are laid over those of the settings file, environment by environment
(`get?_layered`), and then become canonical. So an environment has the version of its last argument;
without one, that of the file; and without either the one that browser queries give it, which are
those of the arguments if there are any, and otherwise those of the file
(`Normalizer.normalize_followsLayers`).
-/

namespace TransformPreset

/-- The queries that count: those of arguments if there are any, and otherwise those of a file. -/
def countingQueries? (arguments : List String) (lower : Entries Value) : Option (List String) :=
  if argumentTexts browsersKey arguments = [] then givenQueries? lower
  else some (argumentTexts browsersKey arguments)

/-- Where the version of an environment comes from, if arguments stand over the targets of a
file. -/
structure Normalizer.FollowsLayers (normalizer : Normalizer) (arguments : List String)
    (lower : Entries Value) (canonical : CanonicalTargets) (environment : String) : Prop where
  /-- The last argument for the environment gives it its version. -/
  argument : ∀ text, lastText? environment arguments = some text →
    ∃ value version, targetValue environment text = .ok value ∧
      normalizer.directVersion? environment value = some version ∧
      canonical.get? environment = some version
  /-- The running version of the runtime can be asked for in two words. -/
  running : environment = nodeKey → ∀ text, text = "current" ∨ text = "true" →
    lastText? environment arguments = some text →
      ∃ version, normalizer.nodeVersion.result = .ok version ∧
        canonical.get? environment = some version
  /-- Without an argument, the file gives it. -/
  file : lastText? environment arguments = none → ∀ value, lower.get? environment = some value →
    ∃ version, normalizer.directVersion? environment value = some version ∧
      canonical.get? environment = some version
  /-- Without either, the least version among the releases that the queries resolve to. -/
  queries : lastText? environment arguments = none → lower.get? environment = none →
    ∀ queries, countingQueries? arguments lower = some queries →
      ∃ releases, normalizer.resolve queries = .ok releases ∧
        canonical.get? environment = (minVersion? releases environment).map Value.int ∧
        (environment ∈ canonical.keys ↔ ∃ version, (environment, version) ∈ namedVersions releases)
  /-- Without queries as well, it has no version. -/
  absent : lastText? environment arguments = none → lower.get? environment = none →
    countingQueries? arguments lower = none → environment ∉ canonical.keys

variable {base given lower merged : Entries Value} {arguments : List String}
  {normalizer : Normalizer} {canonical : CanonicalTargets} {environment : String}

/-! ## Layers of targets -/

/-- With the targets of arguments over them, options have a table of targets, in which an entry of
the arguments stands over the one of the options. -/
theorem exists_layered (hbase : HaveTargetTable base) (hgiven : given.keys.Nodup) :
    ∃ merged : Entries Value, (layerOptions base [(targetsKey, .map given)]).get? targetsKey =
        some (.map merged) ∧ merged.keys.Nodup ∧
      ∀ key, merged.get? key = (given.get? key).or ((targetsIn base).get? key) := by
  rw [layerOptions_cons, layerOptions_nil, Entries.get?_insert, if_pos rfl]
  cases hbelow : base.get? targetsKey with
  | none =>
    refine ⟨given, rfl, hgiven, fun key => ?_⟩
    have hnone : targetsIn base = [] := by rw [targetsIn, hbelow]
    rw [hnone, Entries.get?_nil, Option.or_none]
  | some value =>
    obtain rfl := hbase.table value hbelow
    exact ⟨_, rfl, Entries.nodup_overlay hbase.nodup given, Entries.get?_overlay _ hgiven⟩

/-- Two words are values that ask for the running version. -/
theorem asksCurrent_of_word {text : String} {value : Value}
    (hword : text = "current" ∨ text = "true") (h : targetValue nodeKey text = .ok value) :
    asksCurrent value = true := by
  rcases hword with rfl | rfl
  · have hvalue : targetValue nodeKey "current" = .ok (.text "current") := rfl
    rw [← Except.ok.inj (hvalue.symm.trans h)]
    rfl
  · have hvalue : targetValue nodeKey "true" = .ok (.bool true) := rfl
    rw [← Except.ok.inj (hvalue.symm.trans h)]
    rfl

/-- The queries of the layers are those that count. -/
theorem givenQueries?_layered (hgives : GivesTargets arguments given)
    (hmerged : ∀ key, merged.get? key = (given.get? key).or (lower.get? key)) :
    givenQueries? merged = countingQueries? arguments lower := by
  unfold countingQueries?
  split
  · rename_i hnil
    rw [givenQueries?, hmerged, hgives.queries.absent hnil, Option.none_or]
    rfl
  · rename_i hqueries
    have hsome := hgives.queries.given hqueries
    rw [← hsome]
    obtain ⟨value, hvalue, -⟩ := Option.bind_eq_some_iff.1 hsome
    rw [givenQueries?, givenQueries?, hmerged, hvalue, Option.some_or]

namespace Normalizer

/-! ## Versions by layer -/

/-- An electron version gives no environment but chrome a version, and none at all if it is not
given. -/
theorem electronTarget?_eq_none
    (h : ¬(environment = "chrome" ∧ (givenElectron? merged).isSome)) :
    normalizer.electronTarget? merged environment = none := by
  unfold electronTarget?
  split
  · rename_i hchrome
    rw [Option.not_isSome_iff_eq_none.1 fun hsome => h ⟨hchrome, hsome⟩, Option.bind_none]
  · rfl

/-- An environment that is named directly, and is not chrome with an electron version given, has the
version that its entry gives it. -/
theorem get?_of_entry (hnodup : merged.keys.Nodup)
    (h : (normalizer.normalize (.map merged)).result = .ok canonical)
    (hplain : environment ∉ shorthandKeys)
    (helectron : ¬(environment = "chrome" ∧ (givenElectron? merged).isSome)) {value : Value}
    (hentry : merged.get? environment = some value) :
    ∃ version, normalizer.directVersion? environment value = some version ∧
      canonical.get? environment = some version := by
  obtain ⟨version, hversion⟩ := Option.isSome_iff_exists.1
    ((resolvable_of_normalize hnodup h).direct environment value hplain hentry)
  refine ⟨version, hversion, ?_⟩
  rw [(means_of_normalize hnodup h).get?, target?, electronTarget?_eq_none helectron, directTarget?,
    if_neg hplain, hentry, Option.bind_some, hversion]
  rfl

/-- An environment that is not named directly, and is not chrome with an electron version given, has
the version that browser queries give it. -/
theorem get?_of_no_entry (hnodup : merged.keys.Nodup)
    (h : (normalizer.normalize (.map merged)).result = .ok canonical)
    (helectron : ¬(environment = "chrome" ∧ (givenElectron? merged).isSome))
    (hentry : merged.get? environment = none) :
    canonical.get? environment = normalizer.browserTarget? merged environment := by
  rw [(means_of_normalize hnodup h).get?, target?, electronTarget?_eq_none helectron, directTarget?,
    hentry, Option.bind_none, ite_self, Option.none_or, Option.none_or]

/-- It is an environment of the canonical targets exactly if the queries name it. -/
theorem mem_keys_of_no_entry (hnodup : merged.keys.Nodup)
    (h : (normalizer.normalize (.map merged)).result = .ok canonical)
    (helectron : ¬(environment = "chrome" ∧ (givenElectron? merged).isSome))
    (hentry : merged.get? environment = none) :
    environment ∈ canonical.keys ↔
      ∃ version, (environment, version) ∈ namedVersions (normalizer.givenReleases merged) := by
  rw [Entries.get?_eq_none_iff] at hentry
  rw [(means_of_normalize hnodup h).mem_keys, browserKeys, mem_distinct, List.mem_map]
  constructor
  · rintro (⟨hmem, -⟩ | hchrome | ⟨⟨name, version⟩, hmem, rfl⟩)
    · exact absurd hmem hentry
    · exact absurd hchrome helectron
    · exact ⟨version, hmem⟩
  · rintro ⟨version, hmem⟩
    exact .inr (.inr ⟨_, hmem, rfl⟩)

/-- With the targets of arguments over those of options, every environment but the shorthands, and
chrome if an electron version is given, has the version of its last argument, or that of the
options, or that of the browser queries that count. -/
theorem normalize_followsLayers (normalizer : Normalizer) (base given : Entries Value)
    (arguments : List String) (hbase : HaveTargetTable base)
    (hgiven : readTargetArguments arguments = .ok given) :
    ∃ merged, (layerOptions base [(targetsKey, .map given)]).get? targetsKey =
        some (.map merged) ∧
      ∀ canonical, (normalizer.normalize (.map merged)).result = .ok canonical →
        ∀ environment, environment ∉ shorthandKeys →
          ¬(environment = "chrome" ∧ (givenElectron? merged).isSome) →
            normalizer.FollowsLayers arguments (targetsIn base) canonical environment := by
  have hgives := GivesTargets.of_readTargetArguments hgiven
  obtain ⟨merged, hmerged, hnodup, hget⟩ := exists_layered hbase hgives.nodup
  refine ⟨merged, hmerged, fun canonical h environment hplain helectron => ?_⟩
  have hqueries := givenQueries?_layered hgives hget
  have hne : environment ≠ browsersKey := fun heq => hplain (heq ▸ by decide)
  -- An argument for the environment is its entry, whatever the file has.
  have hargument : ∀ text, lastText? environment arguments = some text →
      ∃ value version, targetValue environment text = .ok value ∧
        normalizer.directVersion? environment value = some version ∧
        canonical.get? environment = some version := by
    intro text htext
    obtain ⟨value, hvalue, hentry⟩ := hgives.last environment text hne htext
    obtain ⟨version, hversion, hcanonical⟩ := get?_of_entry hnodup h hplain helectron
      ((hget environment).trans (by rw [hentry, Option.some_or]))
    exact ⟨value, version, hvalue, hversion, hcanonical⟩
  have hfile : lastText? environment arguments = none →
      merged.get? environment = (targetsIn base).get? environment := by
    intro hnone
    rw [hget, hgives.absent environment hne hnone, Option.none_or]
  refine
    { argument := hargument
      running := ?running
      file := fun hnone value hvalue =>
        get?_of_entry hnodup h hplain helectron ((hfile hnone).trans hvalue)
      queries := ?queries
      absent := ?absent }
  case running =>
    rintro rfl text hword htext
    obtain ⟨value, version, hvalue, hversion, hcanonical⟩ := hargument text htext
    rw [directVersion?, if_pos ⟨rfl, asksCurrent_of_word hword hvalue⟩] at hversion
    exact ⟨version, ok_of_toOption hversion, hcanonical⟩
  case queries =>
    intro hnone hlower queries hcounting
    have hentry := (hfile hnone).trans hlower
    rw [hcounting] at hqueries
    obtain ⟨releases, hreleases, -⟩ := (resolvable_of_normalize hnodup h).browsers queries hqueries
    have hgivenReleases : normalizer.givenReleases merged = releases := by
      rw [givenReleases, hqueries]
      show (normalizer.resolve queries).toOption.getD [] = releases
      rw [hreleases]
      rfl
    refine ⟨releases, hreleases, ?_, ?_⟩
    · rw [get?_of_no_entry hnodup h helectron hentry, browserTarget?, hgivenReleases]
    · rw [mem_keys_of_no_entry hnodup h helectron hentry, hgivenReleases]
  case absent =>
    intro hnone hlower hcounting
    rw [mem_keys_of_no_entry hnodup h helectron ((hfile hnone).trans hlower), givenReleases,
      hqueries, hcounting]
    rintro ⟨version, hmem⟩
    exact absurd hmem List.not_mem_nil

/-- Options with targets of all kinds. -/
def fileOptions : Entries Value :=
  [("loose", .bool true),
    ("targets", .map [("firefox", .int 50), ("chrome", .int 40), ("browsers", .text "edge 13")])]

/-- Arguments that name firefox twice, ask for the running version, and have two queries. -/
def manyArguments : List String :=
  [" firefox =60", "node=true", "browsers=safari 9", "firefox=55.5", "browsers=ie 11, opera 40"]

/-- The last argument for firefox counts, and the query of the file is not asked. -/
theorem shipped_followsLayers :
    ∃ given merged canonical, readTargetArguments manyArguments = .ok given ∧
      (layerOptions fileOptions [(targetsKey, .map given)]).get? targetsKey = some (.map merged) ∧
      ((Session.shipped 18).normalizer.normalize (.map merged)).result = .ok canonical ∧
      canonical.get? "firefox" = some (.float (.ofDecimal false 555 (-1))) ∧
      canonical.get? "node" = some (.float (.ofDecimal false 18 0)) ∧
      canonical.get? "safari" = some (.int 9) ∧ "edge" ∉ canonical.keys := by
  obtain ⟨canonical, hcanonical⟩ : ∃ canonical,
      (Traced.of (readTargetArguments manyArguments) >>= fun given =>
        (Session.shipped 18).normalizer.normalize
          (((layerOptions fileOptions [(targetsKey, .map given)]).get? targetsKey).getD .null)
        ).result = .ok canonical :=
    exists_ok_of_isSome (by decide +kernel)
  obtain ⟨given, hgiven, hcanonical⟩ := Traced.bind_result_ok_iff.1 hcanonical
  obtain ⟨merged, hmerged, hfollows⟩ := normalize_followsLayers (Session.shipped 18).normalizer
    fileOptions given manyArguments ⟨fun value h => Option.some.inj h.symm, by decide⟩ hgiven
  rw [hmerged] at hcanonical
  refine ⟨given, merged, canonical, hgiven, hmerged, hcanonical, ?firefox, ?node, ?safari, ?edge⟩
  case firefox =>
    obtain ⟨value, version, hvalue, hversion, hget⟩ :=
      (hfollows canonical hcanonical "firefox" (by decide) (by simp)).argument "55.5" (by decide)
    have hread : targetValue "firefox" "55.5" = .ok (.float (.ofDecimal false 555 (-1))) := rfl
    obtain rfl := Except.ok.inj (hread.symm.trans hvalue)
    rw [hget, ← hversion]
    rfl
  case node =>
    obtain ⟨version, hversion, hget⟩ :=
      (hfollows canonical hcanonical "node" (by decide) (by simp)).running rfl "true" (.inr rfl)
        (by decide)
    rw [hget, ← Except.ok.inj hversion]
  case safari =>
    obtain ⟨releases, hreleases, hget, -⟩ :=
      (hfollows canonical hcanonical "safari" (by decide) (by simp)).queries (by decide) rfl _ rfl
    obtain rfl := Except.ok.inj hreleases
    rw [hget]
    rfl
  case edge =>
    obtain ⟨releases, hreleases, -, hmem⟩ :=
      (hfollows canonical hcanonical "edge" (by decide) (by simp)).queries (by decide) rfl _ rfl
    have hnames : "edge" ∉ ((namedVersions releases).map Prod.fst) := by
      obtain rfl := Except.ok.inj hreleases
      decide +kernel
    rw [hmem]
    rintro ⟨version, hversion⟩
    exact hnames (List.mem_map.2 ⟨_, hversion, rfl⟩)

end Normalizer

end TransformPreset
