import TransformPreset.Proofs.Target.Canonical
import TransformPreset.Proofs.Target.LeastVersion

/-!
# Wider targets

Canonical targets are widened by others that have all of their environments, each with the same
version or a lesser one. Browser queries that are followed by more queries widen the targets of a
specification (`Normalizer.resolveSpec_widenedBy`): what is named directly and what an electron
version gives stays as it is, and further releases only lower the least version of a browser.
-/

namespace TransformPreset

/-- Whether a version stays as it is or, being an integer, becomes a lesser one. -/
def Value.LoweredTo (value least : Value) : Prop :=
  least = value ∨ ∃ m k, m ≤ k ∧ least = .int m ∧ value = .int k

/-- Whether other targets have all environments of these, with the same or lesser versions. -/
def CanonicalTargets.WidenedBy (targets wider : CanonicalTargets) : Prop :=
  ∀ environment value, targets.get? environment = some value →
    ∃ least, wider.get? environment = some least ∧ value.LoweredTo least

/-! ## Further queries -/

/-- The releases of queries come first among those of the queries followed by others. -/
theorem literalReleases_append {queries more : List String} {all : List String}
    (h : literalReleases (queries ++ more) = .ok all) :
    ∃ releases others, literalReleases queries = .ok releases ∧ all = releases ++ others := by
  have hfragments : fragments (queries ++ more) = fragments queries ++ fragments more :=
    List.flatMap_append
  rw [literalReleases, hfragments] at h
  obtain ⟨hread, hall⟩ := readReleases_ok_iff.1 h
  have hqueries := readReleases_ok_iff.2
    ⟨fun text htext => hread text (List.mem_append_left _ htext), rfl⟩
  exact ⟨_, _, hqueries, by rw [hall, List.map_append, List.filter_append, List.map_append]⟩

namespace TargetSpec

variable {spec next : TargetSpec} {targets : Entries Value}

/-- An entry that is not one of browser queries is read beside other queries in the same way. -/
theorem readEntry_withBrowsers {key : String} {value : Value} (hkey : key ≠ browsersKey)
    (h : (spec.readEntry writing key value).result = .ok next) (browsers : Option (List String)) :
    (readEntry writing { spec with browsers } key value).result = .ok { next with browsers } := by
  unfold readEntry
  rcases readEntry_cases h with ⟨hbrowsers, -⟩ | ⟨helectron, electron?, hread, rfl⟩ |
    ⟨hplain, c, hread, rfl⟩
  · exact absurd hbrowsers hkey
  · rw [if_neg hkey, if_pos helectron, hread]
    rfl
  · have helectron : key ≠ electronKey := fun heq => hplain (heq ▸ by decide)
    rw [if_neg hkey, if_neg helectron, hread]
    rfl

/-- Entries without one of browser queries are read beside other queries in the same way. -/
theorem readEntries_withBrowsers (hkeys : browsersKey ∉ targets.keys)
    (h : (spec.readEntries writing targets).result = .ok next) (browsers : Option (List String)) :
    (readEntries writing { spec with browsers } targets).result = .ok { next with browsers } := by
  induction targets generalizing spec with
  | nil =>
    obtain rfl : spec = next := Except.ok.inj h
    rfl
  | cons entry rest ih =>
    obtain ⟨key, value⟩ := entry
    obtain ⟨mid, hmid, h⟩ := Traced.bind_result_ok_iff.1 h
    have hkey : key ≠ browsersKey := fun heq => hkeys (heq ▸ List.mem_cons_self)
    have hrest : browsersKey ∉ Entries.keys rest := fun hmem => hkeys (List.mem_cons_of_mem _ hmem)
    exact Traced.bind_result_ok_iff.2 ⟨_, readEntry_withBrowsers hkey hmid browsers, ih hrest h⟩

/-- A list of texts holds them as queries. -/
theorem queries?_list (queries : List String) :
    (Value.list (queries.map .text)).queries? = some queries := by
  show (queries.map Value.text).mapM Value.text? = some queries
  induction queries with
  | nil => rfl
  | cons query rest ih =>
    rw [List.map_cons, List.mapM_cons, ih]
    rfl

/-- The entry of browser queries is read as its queries, whatever queries there were before. -/
theorem readEntry_queries (spec : TargetSpec) (queries : List String) :
    (spec.readEntry writing browsersKey (.list (queries.map .text))).result =
      .ok { spec with browsers := some queries } := by
  have hqueries := queries?_list queries
  obtain ⟨queries?, hread⟩ := (readBrowsers_decides writing (.list (queries.map .text))).ok_iff.2
    (allPass_cons.2 ⟨fun h => Option.some_ne_none _ (hqueries.symm.trans h.queries), allPass_nil⟩)
  unfold readEntry
  rw [if_pos rfl]
  refine Traced.bind_result_ok_iff.2 ⟨queries?, hread, ?_⟩
  rw [readBrowsers_ok hread, hqueries, Traced.pure_result]

/-- Other queries written into a table are read as a specification with these queries. -/
theorem readEntries_insert_queries (hdistinct : targets.keys.Nodup)
    (hthere : browsersKey ∈ targets.keys) (h : (spec.readEntries writing targets).result = .ok next)
    (queries : List String) :
    (spec.readEntries writing (targets.insert browsersKey (.list (queries.map .text)))).result =
      .ok { next with browsers := some queries } := by
  induction targets generalizing spec with
  | nil => exact absurd hthere List.not_mem_nil
  | cons entry rest ih =>
    obtain ⟨key, value⟩ := entry
    obtain ⟨hkey, hrest⟩ := List.nodup_cons.1 hdistinct
    obtain ⟨mid, hmid, h⟩ := Traced.bind_result_ok_iff.1 h
    rw [Entries.insert]
    by_cases hbrowsers : key = browsersKey
    · -- The entry is replaced at its place, and the later ones leave the queries.
      subst hbrowsers
      rw [if_pos rfl]
      rcases readEntry_cases hmid with ⟨-, rfl⟩ | ⟨helectron, -⟩ | ⟨hplain, -⟩
      · exact Traced.bind_result_ok_iff.2
          ⟨_, readEntry_queries spec queries, readEntries_withBrowsers hkey h (some queries)⟩
      · exact absurd helectron (by decide)
      · exact absurd List.mem_cons_self hplain
    · rw [if_neg hbrowsers]
      have hlater : browsersKey ∈ Entries.keys rest :=
        (List.mem_cons.1 hthere).resolve_left (Ne.symm hbrowsers)
      exact Traced.bind_result_ok_iff.2 ⟨mid, hmid, ih hrest hlater h⟩

/-- Entries after others are read on top of those. -/
theorem readEntries_append {mid : TargetSpec} {more : Entries Value}
    (h : (spec.readEntries writing targets).result = .ok mid)
    (hmore : (mid.readEntries writing more).result = .ok next) :
    (spec.readEntries writing (targets ++ more)).result = .ok next := by
  induction targets generalizing spec with
  | nil =>
    obtain rfl : spec = mid := Except.ok.inj h
    exact hmore
  | cons entry rest ih =>
    obtain ⟨first, hfirst, h⟩ := Traced.bind_result_ok_iff.1 h
    exact Traced.bind_result_ok_iff.2 ⟨first, hfirst, ih h⟩

/-- A specification that was read is read with other queries from another table. -/
theorem IsRead.withQueries (h : spec.IsRead) (queries : List String) :
    IsRead { spec with browsers := some queries } := by
  obtain ⟨writing, targets, hread⟩ := h
  refine ⟨writing, targets ++ [(browsersKey, .list (queries.map .text))], ?_⟩
  exact readEntries_append hread
    (Traced.bind_result_ok_iff.2 ⟨_, readEntry_queries spec queries, rfl⟩)

end TargetSpec

namespace Normalizer

variable {normalizer : Normalizer} {canonical wider : CanonicalTargets} {queries more : List String}

/-- Further queries widen what the last stage makes of given targets. -/
theorem browserStage_widenedBy (hresolver : normalizer.resolve = literalReleases)
    {upper : CanonicalTargets} (hnodup : upper.keys.Nodup)
    (h : (normalizer.browserStage (some queries) upper).result = .ok canonical)
    (hwider : (normalizer.browserStage (some (queries ++ more)) upper).result = .ok wider) :
    canonical.WidenedBy wider := by
  obtain ⟨releases, lowest, hreleases, hlowest, rfl⟩ := withBrowsers_ok h
  obtain ⟨all, least, hall, hleast, rfl⟩ := withBrowsers_ok hwider
  rw [hresolver] at hreleases hall
  obtain ⟨_, others, hfirst, rfl⟩ := literalReleases_append hall
  obtain rfl := Except.ok.inj (hreleases.symm.trans hfirst)
  obtain ⟨-, rfl⟩ := lowestVersions_ok_iff.1 hlowest
  obtain ⟨-, rfl⟩ := lowestVersions_ok_iff.1 hleast
  intro environment value hget
  rw [Entries.get?_overlay _ hnodup, Entries.get?_map, get?_leastVersions] at hget ⊢
  cases hfound : upper.get? environment with
  | some found =>
    rw [hfound] at hget
    exact ⟨found, rfl, .inl (Option.some.inj hget)⟩
  | none =>
    rw [hfound, Option.none_or] at hget
    obtain ⟨k, hk, rfl⟩ := Option.map_eq_some_iff.1 hget
    obtain ⟨m, hm, hmin⟩ := exists_minVersion?_append hk others
    rw [Option.none_or, hmin]
    exact ⟨.int m, rfl, .inr ⟨m, k, hm, rfl, rfl⟩⟩

/-- Further queries widen the canonical targets of a specification. -/
theorem resolveSpec_widenedBy (hresolver : normalizer.resolve = literalReleases)
    {spec : TargetSpec} (hspec : spec.IsRead) (hqueries : spec.browsers = some queries)
    (h : (normalizer.resolveSpec spec).result = .ok canonical)
    (hwider : (normalizer.resolveSpec { spec with browsers := some (queries ++ more) }).result =
      .ok wider) :
    canonical.WidenedBy wider := by
  obtain ⟨direct, upper, hdirect, hupper, hcanonical⟩ := resolveSpec_ok h
  obtain ⟨direct', upper', hdirect', hupper', hwider⟩ := resolveSpec_ok hwider
  -- The stages before the queries are the same.
  obtain rfl : direct = direct' := Except.ok.inj (hdirect.symm.trans hdirect')
  obtain rfl : upper = upper' := Except.ok.inj (hupper.symm.trans hupper')
  have hnodup : upper.keys.Nodup :=
    nodup_electronStage hupper ((direct_ok hdirect).1 ▸ hspec.nodup)
  rw [hqueries] at hcanonical
  exact browserStage_widenedBy hresolver hnodup hcanonical hwider

end Normalizer

end TransformPreset
