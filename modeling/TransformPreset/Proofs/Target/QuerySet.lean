import TransformPreset.Proofs.Target.Meaning

/-!
# Queries as sets of releases

The resolver that needs no database cuts queries at commas, and reads each fragment with its blanks
and letters made alike. It refuses a fragment that is no release, and the canonical targets take the
least version of each browser. So all that counts is which fragments there are: queries with the
same set of them are accepted or refused alike, and where they are accepted they give every
environment the same version (`Normalizer.normalize_ofReleases`). Queries that are joined by commas
have the fragments that they had.
-/

namespace TransformPreset

/-! ## What queries spell -/

/-- The fragments of queries that are not blank, with their blanks and letters made alike. -/
def spelledReleases (queries : List String) : List (List Char) :=
  ((fragments queries).map releaseText).filter fun text => !text.isEmpty

/-- Whether queries have the same set of fragments that are not blank, but for blanks and case. -/
def SameReleases (queries others : List String) : Prop :=
  ∀ text, text ∈ spelledReleases queries ↔ text ∈ spelledReleases others

/-- Queries are accepted exactly if all that they spell are releases, and these are the answer. -/
theorem literalReleases_ok_iff {queries releases : List String} :
    literalReleases queries = .ok releases ↔
      (∀ text ∈ spelledReleases queries, isRelease text = true) ∧
        releases = (spelledReleases queries).map String.ofList := by
  rw [literalReleases, readReleases_ok_iff]
  refine and_congr_left fun _ => ⟨fun h text htext => ?_, fun h fragment hfragment => ?_⟩
  · obtain ⟨hmem, hfull⟩ := List.mem_filter.1 htext
    obtain ⟨fragment, hfragment, rfl⟩ := List.mem_map.1 hmem
    refine (h fragment hfragment).resolve_left fun hblank => ?_
    rw [hblank] at hfull
    cases hfull
  · refine or_iff_not_imp_left.2 fun hne => ?_
    refine h _ (List.mem_filter.2 ⟨List.mem_map_of_mem hfragment, ?_⟩)
    rw [Bool.not_eq_true', List.isEmpty_eq_false_iff]
    exact hne

/-- Queries that are joined by commas resolve to what they resolve to one by one. -/
theorem literalReleases_intercalate (queries : List String) :
    literalReleases [",".intercalate queries] = literalReleases queries := by
  cases queries with
  | nil => rfl
  | cons query rest =>
    have hfragments : fragments [",".intercalate (query :: rest)] = fragments (query :: rest) := by
      have htexts : (query :: rest).map String.toList ≠ [] := List.cons_ne_nil _ _
      have hcomma : ",".toList = [','] := rfl
      rw [fragments, fragments, List.flatMap_singleton, String.toList_intercalate, hcomma,
        pieces_intercalate ',' htexts, List.flatMap_map]
    rw [literalReleases, literalReleases, hfragments]

namespace SameReleases

variable {queries others : List String}

/-- The relation goes both ways. -/
theorem symm (h : SameReleases queries others) : SameReleases others queries :=
  fun text => (h text).symm

/-- Queries that spell the same as accepted ones are accepted, and resolve to the same set of
releases. -/
theorem exists_literalReleases (h : SameReleases queries others) {releases : List String}
    (hqueries : literalReleases queries = .ok releases) :
    ∃ otherReleases, literalReleases others = .ok otherReleases ∧
      ∀ release, release ∈ releases ↔ release ∈ otherReleases := by
  obtain ⟨hall, rfl⟩ := literalReleases_ok_iff.1 hqueries
  refine ⟨_, literalReleases_ok_iff.2 ⟨fun text htext => hall text ((h text).2 htext), rfl⟩, ?_⟩
  intro release
  simp only [List.mem_map, h _]

end SameReleases

/-! ## Tables that differ in their queries -/

/-- What two answers to queries have in common: both are the same set of releases, or both refuse a
fragment. -/
inductive SameAnswer : Except Failure (List String) → Except Failure (List String) → Prop
  /-- Both are accepted. -/
  | accepted (releases others : List String)
      (h : ∀ release, release ∈ releases ↔ release ∈ others) :
      SameAnswer (.ok releases) (.ok others)
  /-- Both are refused. -/
  | refused (failure other : Failure) (h : failure.kind = .config) (hother : other.kind = .config) :
      SameAnswer (.error failure) (.error other)

/-- Queries that spell the same are answered alike. -/
theorem SameReleases.sameAnswer {queries others : List String} (h : SameReleases queries others) :
    SameAnswer (literalReleases queries) (literalReleases others) := by
  have hconfig : ∀ {queries failure}, literalReleases queries = .error failure →
      failure.kind = .config := fun hfailure =>
    List.mem_singleton.1 (literalReleases_failsWith _ _ hfailure)
  cases hqueries : literalReleases queries with
  | ok releases =>
    obtain ⟨otherReleases, hothers, hmem⟩ := h.exists_literalReleases hqueries
    rw [hothers]
    exact .accepted releases otherReleases hmem
  | error failure =>
    cases hothers : literalReleases others with
    | ok releases =>
      obtain ⟨_, hok, -⟩ := h.symm.exists_literalReleases hothers
      rw [hqueries] at hok
      cases hok
    | error other => exact .refused failure other (hconfig hqueries) (hconfig hothers)

namespace Normalizer

variable {normalizer : Normalizer} {targets others : Entries Value}
  {queries otherQueries : List String}

/-- Tables that agree outside of their queries give the same electron version. -/
theorem givenElectron?_congr
    (hsame : ∀ key, key ≠ browsersKey → others.get? key = targets.get? key) :
    givenElectron? others = givenElectron? targets := by
  rw [givenElectron?, givenElectron?, hsame electronKey (by decide)]

/-- What is resolvable with some queries is resolvable with others that spell the same. -/
theorem Resolvable.withQueries (hresolvable : normalizer.Resolvable targets)
    (hresolve : normalizer.resolve = literalReleases)
    (hsame : ∀ key, key ≠ browsersKey → others.get? key = targets.get? key)
    (hqueries : givenQueries? targets = some queries)
    (hothers : givenQueries? others = some otherQueries)
    (h : SameReleases queries otherQueries) : normalizer.Resolvable others where
  direct environment value hplain hget := by
    have hkey : environment ≠ browsersKey := fun heq => hplain (by rw [heq]; decide)
    exact hresolvable.direct environment value hplain ((hsame environment hkey).symm.trans hget)
  electron value hvalue := by
    rw [givenElectron?_congr hsame] at hvalue
    exact hresolvable.electron value hvalue
  browsers given hgiven := by
    obtain rfl := Option.some.inj (hothers.symm.trans hgiven)
    obtain ⟨releases, hreleases, hreadable⟩ := hresolvable.browsers queries hqueries
    rw [hresolve] at hreleases ⊢
    obtain ⟨otherReleases, hok, hmem⟩ := h.exists_literalReleases hreleases
    exact ⟨otherReleases, hok,
      fun release hrelease => hreadable release ((hmem release).2 hrelease)⟩
  warning _ hget := not_tooDeepToWarn hothers hget

/-- The versions of environments are the same with other queries that spell the same. -/
theorem target?_withQueries (hresolve : normalizer.resolve = literalReleases)
    (hsame : ∀ key, key ≠ browsersKey → others.get? key = targets.get? key)
    (hqueries : givenQueries? targets = some queries)
    (hothers : givenQueries? others = some otherQueries)
    (h : SameReleases queries otherQueries) (environment : String) :
    normalizer.target? others environment = normalizer.target? targets environment := by
  have hdirect : normalizer.directTarget? others environment =
      normalizer.directTarget? targets environment := by
    rw [directTarget?, directTarget?]
    by_cases hshort : environment ∈ shorthandKeys
    · rw [if_pos hshort, if_pos hshort]
    · have hkey : environment ≠ browsersKey := fun heq => hshort (by rw [heq]; decide)
      rw [if_neg hshort, if_neg hshort, hsame environment hkey]
  have hreleases : ∀ release, release ∈ normalizer.givenReleases others ↔
      release ∈ normalizer.givenReleases targets := by
    have hanswer := h.sameAnswer
    rw [givenReleases, givenReleases, hqueries, hothers, hresolve]
    intro release
    dsimp only
    generalize literalReleases queries = answer at hanswer
    generalize literalReleases otherQueries = other at hanswer
    cases hanswer with
    | accepted releases otherReleases hmem => exact (hmem release).symm
    | refused => exact Iff.rfl
  rw [target?, target?, electronTarget?, electronTarget?, givenElectron?_congr hsame, hdirect,
    browserTarget?, browserTarget?, minVersion?_congr hreleases]

/-- What two tables have in common that differ in their queries only, which spell the same. -/
structure QueriesAgree (normalizer : Normalizer) (targets others : Entries Value)
    (queries otherQueries : List String) : Prop where
  /-- The resolver accepts both queries or refuses both. -/
  resolver : SameAnswer (literalReleases queries) (literalReleases otherQueries)
  /-- Both tables become canonical or neither does. -/
  success : (∃ canonical, (normalizer.normalize (.map targets)).result = .ok canonical) ↔
    ∃ canonical, (normalizer.normalize (.map others)).result = .ok canonical
  /-- The canonical targets are the same, but for the order of environments. -/
  canonical : ∀ canonical otherCanonical,
    (normalizer.normalize (.map targets)).result = .ok canonical →
    (normalizer.normalize (.map others)).result = .ok otherCanonical →
      canonical.Perm otherCanonical
  /-- Joining queries by commas does not change the answer, refusals included. -/
  joined : ∀ queries, literalReleases [",".intercalate queries] = literalReleases queries

/-- For the resolver that needs no database, queries are the set of releases that they spell. -/
theorem normalize_ofReleases (hresolve : normalizer.resolve = literalReleases)
    (hdistinct : targets.keys.Nodup) (hotherDistinct : others.keys.Nodup)
    (hsame : ∀ key, key ≠ browsersKey → others.get? key = targets.get? key)
    (hqueries : givenQueries? targets = some queries)
    (hothers : givenQueries? others = some otherQueries)
    (h : SameReleases queries otherQueries) :
    QueriesAgree normalizer targets others queries otherQueries where
  resolver := h.sameAnswer
  success := by
    rw [exists_normalize_iff normalizer hdistinct, exists_normalize_iff normalizer hotherDistinct]
    constructor
    · exact fun hresolvable => hresolvable.withQueries hresolve hsame hqueries hothers h
    · exact fun hresolvable => hresolvable.withQueries hresolve
        (fun key hkey => (hsame key hkey).symm) hothers hqueries h.symm
  canonical canonical otherCanonical hcanonical hother := by
    have hmeans := means_of_normalize hdistinct hcanonical
    have hotherMeans := means_of_normalize hotherDistinct hother
    refine Entries.perm_of_get? hmeans.nodup hotherMeans.nodup fun environment => ?_
    rw [hmeans.get?, hotherMeans.get?,
      target?_withQueries hresolve hsame hqueries hothers h environment]
  joined := literalReleases_intercalate

/-- Two queries in one text, and three in a list, one of them twice: the tables agree, and become
canonical. -/
theorem shipped_normalize_ofReleases :
    QueriesAgree (Session.shipped 18).normalizer
      [("browsers", .text "Chrome  50, ,IE 11"), ("node", .bool true)]
      [("node", .bool true), ("browsers", .list [.text "ie 11", .text "chrome 50,Ie 11"])]
      ["Chrome  50, ,IE 11"] ["ie 11", "chrome 50,Ie 11"] ∧
    ∃ canonical, ((Session.shipped 18).normalizer.normalize
      (.map [("browsers", .text "Chrome  50, ,IE 11"), ("node", .bool true)])).result =
        .ok canonical := by
  have hone : ∀ text ∈ spelledReleases ["Chrome  50, ,IE 11"],
      text ∈ spelledReleases ["ie 11", "chrome 50,Ie 11"] := by
    decide +kernel
  have hother : ∀ text ∈ spelledReleases ["ie 11", "chrome 50,Ie 11"],
      text ∈ spelledReleases ["Chrome  50, ,IE 11"] := by
    decide +kernel
  refine ⟨normalize_ofReleases rfl (by decide) (by decide) (fun key hkey => ?_) rfl rfl
    fun text => ⟨hone text, hother text⟩, exists_ok_of_isSome (by decide +kernel)⟩
  have hne : "browsers" ≠ key := Ne.symm hkey
  rw [Entries.get?_cons, Entries.get?_cons, Entries.get?_cons, Entries.get?_cons, if_neg hne,
    if_neg hne]

end Normalizer

end TransformPreset
