import TransformPreset.Proofs.Capability.Requirement
import TransformPreset.Proofs.Preset.Building

/-!
# Releases that a query names

With literal releases no release that a query names is lost on the way to a preset. Its browser is
among the canonical targets with a version that is at most the named one, and whatever the preset
leaves out and nobody excluded is known to that version (`Session.build_keepsNamedRelease`).
-/

namespace TransformPreset

/-- A version of the browser of an environment that the queries of a table of targets name, where
nothing else in the table gives a version of the environment. -/
structure NamesRelease (targets : Entries Value) (environment : String) (version : List Char) :
    Prop where
  /-- One of the fragments of the queries is the name of the browser, in letters of any case, and
  the version. -/
  named : ∃ queries fragment name,
    (targets.get? browsersKey).bind Value.queries? = some queries ∧
      fragment ∈ fragments queries ∧ words fragment = [name, version] ∧
      browserEnvironments.get? (String.ofList (lowerCase name)) = some environment
  /-- The environment is not named directly. -/
  direct : environment ∉ targets.keys
  /-- No electron version is given in place of chrome. -/
  electron : environment = "chrome" → GivesNoElectron targets

/-- Whether an entry of a table has a version for an environment that is at most a given one. -/
def Capability.KnownAt (capability : Capability) (environment : String) (version : Int) : Prop :=
  ∃ implemented, capability.get? environment = some implemented ∧
    implemented.le (.int version) = true

/-! ## The release among the targets -/

/-- Targets that resolve with literal releases have the environment of a named release, with at most
the named version. -/
theorem NamesRelease.exists_target {targets : Entries Value} {environment : String}
    {version : List Char} (h : NamesRelease targets environment version)
    (hdistinct : targets.keys.Nodup) {writing : Writing} {spec : TargetSpec}
    (hread : (TargetSpec.read writing (.map targets)).result = .ok spec) {normalizer : Normalizer}
    (hresolver : normalizer.resolve = literalReleases) {canonical : CanonicalTargets}
    (hresolve : (normalizer.resolveSpec spec).result = .ok canonical) :
    ∃ v, leadingInt version = .ok (some v) ∧
      ∃ n, n ≤ v ∧ canonical.get? environment = some (.int n) := by
  obtain ⟨queries, fragment, name, hqueries, hfragment, hwords, hname⟩ := h.named
  have hbrowsers : spec.browsers = some queries := by
    rw [TargetSpec.browsers_of_readEntries hread hdistinct]
    obtain ⟨value, hget, hvalue⟩ := Option.bind_eq_some_iff.1 hqueries
    rw [hget]
    exact hvalue
  -- The environments of the specification are keys of the table, so this one is not among them.
  have hdirect : environment ∉ spec.environments.keys := by
    intro hmem
    rcases TargetSpec.mem_environments_of_readEntries hread hmem with hnone | ⟨hkey, -⟩
    · exact absurd hnone List.not_mem_nil
    · exact h.direct hkey
  have hspec : spec.IsRead := ⟨writing, targets, hread⟩
  obtain ⟨releases, lowest, hreleases, hlowest, hget⟩ :=
    Normalizer.resolveSpec_get?_of_browser hresolve hspec.nodup hbrowsers hdirect
      fun hchrome => TargetSpec.electron_of_givesNoElectron hread hdistinct (h.electron hchrome)
  -- The release is one of those that the least version is taken of.
  rw [hresolver] at hreleases
  obtain ⟨v, hv, n, hle, hn⟩ :=
    lowestVersions_le_of_words hreleases hlowest hfragment hwords hname
  exact ⟨v, hv, n, hle, by rw [hget, hn]; rfl⟩

/-! ## Capabilities that are left out -/

/-- What a table does not require for the canonical targets of a specification that was read is
known at every version from the targeted one on. -/
theorem knownAt_of_not_requires {normalizer : Normalizer} {spec : TargetSpec}
    {canonical : CanonicalTargets} (hresolve : (normalizer.resolveSpec spec).result = .ok canonical)
    (hspec : spec.IsRead) {table : CapabilityTable} {names : List String}
    (hselect : (selectRequired normalizer (.map canonical) table.values).result = .ok names)
    {environment : String} {n v : Int} (hget : canonical.get? environment = some (.int n))
    (hle : n ≤ v) {entry : String × Capability} (hentry : entry ∈ table)
    (hversions : ∀ version ∈ entry.2, version.2 ≠ .float .nan)
    (hnot : ¬table.Requires normalizer canonical entry.1) : entry.2.KnownAt environment v := by
  have hanswer := not_required_of_selectRequired hselect hentry hnot
  obtain ⟨implemented, hthere, hn⟩ := le_of_not_required hresolve hspec hversions hanswer hget
  exact ⟨implemented, hthere, Number.le_int_trans hn hle⟩

namespace Session

/-- In a preset that was built with literal releases, the environment of a release that a query
names is targeted at the named version or an older one; and every transformation and every polyfill
that is left out and not excluded is known to the environment at the named version. -/
theorem build_keepsNamedRelease (session : Session) (hresolver : session.resolve = literalReleases)
    (hplugins : ∀ entry ∈ session.tables.plugins, ∀ version ∈ entry.2, version.2 ≠ .float .nan)
    (hbuiltIns : ∀ entry ∈ session.tables.builtIns, ∀ version ∈ entry.2, version.2 ≠ .float .nan)
    (options targets : Entries Value) (htargets : options.get? "targets" = some (.map targets))
    (hdistinct : targets.keys.Nodup) (preset : Preset)
    (h : (session.build (.raw (.map options))).2.result = .ok preset)
    (environment : String) (version : List Char)
    (hnamed : NamesRelease targets environment version) :
    ∃ v, leadingInt version = .ok (some v) ∧
      (∃ n, n ≤ v ∧ preset.targets.get? environment = some (.int n)) ∧
      (∀ entry ∈ session.tables.plugins, entry.1 ∉ preset.transformations →
        entry.1 ∉ (OptionsInput.raw (.map options)).excluded → entry.2.KnownAt environment v) ∧
      ((OptionsInput.raw (.map options)).useBuiltIns = true →
        ∃ polyfills, preset.polyfills = some polyfills ∧
          ∀ entry ∈ session.tables.builtIns, entry.1 ∉ polyfills →
            entry.1 ∉ (OptionsInput.raw (.map options)).excluded →
              entry.2.KnownAt environment v) := by
  obtain ⟨validated, plan, registry, plugins, hvalid, hmade, -, -, -, rfl⟩ := build_ok h
  obtain ⟨-, hexcluded, hasked, -, -⟩ := OptionsInput.validate_ok hvalid
  -- The validated targets are read from the very table that is given.
  have hread : (TargetSpec.read session.writing (.map targets)).result = .ok validated.targets := by
    obtain ⟨table, htable, hoption⟩ := PresetOptions.read_ok hvalid
    rw [← PresetOptions.readTargets_map ((hoption "targets").symm.trans htargets)]
    exact (PresetOptions.readTable_ok_iff.1 htable).2.1
  obtain ⟨v, hv, n, hle, hget⟩ :=
    hnamed.exists_target hdistinct hread hresolver hmade.targets
  have hspec : validated.targets.IsRead := ⟨session.writing, targets, hread⟩
  refine ⟨v, hv, ⟨n, hle, hget⟩, ?plugins, ?builtIns⟩
  case plugins =>
    intro entry hentry habsent hkept
    obtain ⟨required, hrequired, -⟩ := hmade.transformations_ok
    refine knownAt_of_not_requires hmade.targets hspec hrequired hget hle hentry
      (hplugins entry hentry) fun hrequires => habsent ?_
    exact hmade.mem_transformations.2
      (.inr ⟨hrequires, fun hgiven => hkept (hexcluded ▸ hgiven.2)⟩)
  case builtIns =>
    intro huse
    obtain ⟨polyfills, hpolyfills⟩ := Option.isSome_iff_exists.1
      (hmade.isSome_polyfills.trans (hasked.trans huse))
    refine ⟨polyfills, hpolyfills, fun entry hentry habsent hkept => ?_⟩
    obtain ⟨-, required, hrequired, -⟩ := hmade.polyfills_ok hpolyfills
    refine knownAt_of_not_requires hmade.targets hspec hrequired hget hle hentry
      (hbuiltIns entry hentry) fun hrequires => habsent ?_
    exact (hmade.mem_polyfills hpolyfills).2
      (.inr ⟨.inl hrequires, fun hgiven => hkept (hexcluded ▸ hgiven.2)⟩)

/-- A release in letters of another case, between blanks and beside a later release of the same
browser. -/
theorem shipped_keepsNamedRelease :
    ∃ preset, ((shipped 18).build (.raw (.map [
        ("targets", .map [("browsers", .list [.text "Firefox 48, CHROME  50.0-beta",
          .text "chrome 51"])]),
        ("use_built_ins", .bool true)]))).2.result = .ok preset ∧
      ∃ n, n ≤ 50 ∧ preset.targets.get? "chrome" = some (.int n) := by
  refine (exists_ok_of_isSome ?built).imp fun preset hok => ⟨hok, ?_⟩
  case built =>
    decide +kernel
  have hnamed : NamesRelease [("browsers", .list [.text "Firefox 48, CHROME  50.0-beta",
      .text "chrome 51"])] "chrome" "50.0-beta".toList :=
    { named := ⟨["Firefox 48, CHROME  50.0-beta", "chrome 51"], " CHROME  50.0-beta".toList,
        "CHROME".toList, by decide +kernel, by decide +kernel, by decide +kernel,
        by decide +kernel⟩
      direct := by decide
      electron := fun _ => by rintro value ⟨⟩ }
  obtain ⟨v, hv, htarget, -⟩ := build_keepsNamedRelease (shipped 18) rfl (by decide +kernel)
    (by decide +kernel) _ _ rfl (by decide) preset hok "chrome" "50.0-beta".toList hnamed
  have hfifty : leadingInt "50.0-beta".toList = .ok (some 50) := by
    rfl
  obtain rfl : v = 50 := Option.some.inj (Except.ok.inj (hv.symm.trans hfifty))
  exact htarget

end Session

end TransformPreset
