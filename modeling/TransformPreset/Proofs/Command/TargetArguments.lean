import TransformPreset.Command.Gather
import TransformPreset.Proofs.Entries
import TransformPreset.Proofs.Outcome
import TransformPreset.Proofs.Target.Given
import TransformPreset.Proofs.Target.Widening

/-!
# What target arguments give

A target argument gives an environment the text behind its first equals sign (`argumentText?`). Of
several texts for an environment the last one counts, and the texts for `browsers` are gathered in
order. A list of arguments that can be read becomes the table of targets that says so
(`GivesTargets.of_readTargetArguments`).
-/

namespace TransformPreset

/-- The text that an argument gives an environment: what follows its first equals sign, if the name
of the environment stands before it, between blanks. -/
def argumentText? (environment argument : String) : Option String :=
  match partitionAt '=' argument.toList with
  | (key, some text) =>
    if String.ofList (trim key) = environment then some (String.ofList text) else none
  | (_, none) => none

/-- The texts that arguments give an environment, in order. -/
def argumentTexts (environment : String) (arguments : List String) : List String :=
  arguments.filterMap (argumentText? environment)

/-- The last text that arguments give an environment. -/
def lastText? (environment : String) (arguments : List String) : Option String :=
  (argumentTexts environment arguments).getLast?

/-- A table of targets that holds gathered queries: it gives them, or has no entry for them if there
are none. -/
structure HoldsQueries (targets : Entries Value) (queries : List String) : Prop where
  /-- Without queries there is no entry. -/
  absent : queries = [] → targets.get? browsersKey = none
  /-- Otherwise they are given. -/
  given : queries ≠ [] → givenQueries? targets = some queries

/-- A table of targets that holds what arguments give. -/
structure GivesTargets (arguments : List String) (given : Entries Value) : Prop where
  /-- No environment comes twice. -/
  nodup : given.keys.Nodup
  /-- The last text for an environment is its value. -/
  last : ∀ environment text, environment ≠ browsersKey →
    lastText? environment arguments = some text →
      ∃ value, targetValue environment text = .ok value ∧ given.get? environment = some value
  /-- Without a text an environment has no value. -/
  absent : ∀ environment, environment ≠ browsersKey → lastText? environment arguments = none →
    given.get? environment = none
  /-- The texts for `browsers` are the queries; without one, there is no entry for them. -/
  queries : HoldsQueries given (argumentTexts browsersKey arguments)

variable {environment argument : String} {arguments queries : List String}
  {targets given : Entries Value}

/-! ## Single arguments -/

/-- An argument that can be split gives its own environment its text, and no other one any. -/
theorem argumentText?_of_splitTarget {key text : String}
    (h : splitTarget argument = .ok (key, text)) (environment : String) :
    argumentText? environment argument = if key = environment then some text else none := by
  unfold splitTarget at h
  unfold argumentText?
  cases hpartition : partitionAt '=' argument.toList with
  | mk before after? =>
    rw [hpartition] at h
    cases after? with
    | none => cases h
    | some after =>
      dsimp only at h ⊢
      split at h
      · cases h
      · obtain ⟨rfl, rfl⟩ := Prod.mk.inj (Except.ok.inj h)
        rfl

/-- What further arguments add to the texts of an environment. -/
theorem argumentTexts_cons_of_splitTarget {key text : String}
    (h : splitTarget argument = .ok (key, text)) (environment : String) (arguments : List String) :
    argumentTexts environment (argument :: arguments) =
      if key = environment then text :: argumentTexts environment arguments
      else argumentTexts environment arguments := by
  unfold argumentTexts
  rw [List.filterMap_cons, argumentText?_of_splitTarget h]
  split <;> simp_all

/-! ## Lists of arguments -/

/-- What one argument does to the targets and queries that are read. -/
theorem addTargets_cons_ok (h : addTargets targets queries (argument :: arguments) = .ok given) :
    ∃ key text, splitTarget argument = .ok (key, text) ∧
      (key = browsersKey ∧ addTargets targets (queries ++ [text]) arguments = .ok given ∨
        key ≠ browsersKey ∧ ∃ value, targetValue key text = .ok value ∧
          addTargets (targets.insert key value) queries arguments = .ok given) := by
  obtain ⟨⟨key, text⟩, hsplit, h⟩ := except_bind_ok_iff.1 h
  refine ⟨key, text, hsplit, ?_⟩
  dsimp only at h
  split at h
  · rename_i hkey
    exact .inl ⟨hkey, h⟩
  · rename_i hkey
    exact .inr ⟨hkey, except_bind_ok_iff.1 h⟩

/-- The queries are an entry of their own. -/
theorem get?_withQueries (targets : Entries Value) (queries : List String)
    (hne : environment ≠ browsersKey) :
    (withQueries targets queries).get? environment = targets.get? environment := by
  unfold withQueries
  split
  · rfl
  · rw [Entries.get?_insert, if_neg hne.symm]
  · rw [Entries.get?_insert, if_neg hne.symm]

/-- No environment comes twice among the targets that are read. -/
theorem nodup_addTargets (hnodup : targets.keys.Nodup)
    (h : addTargets targets queries arguments = .ok given) : given.keys.Nodup := by
  induction arguments generalizing targets queries with
  | nil =>
    rw [← Except.ok.inj h]
    unfold withQueries
    split
    · exact hnodup
    · exact Entries.nodup_insert hnodup _ _
    · exact Entries.nodup_insert hnodup _ _
  | cons argument rest ih =>
    obtain ⟨key, text, -, ⟨-, h⟩ | ⟨-, value, -, h⟩⟩ := addTargets_cons_ok h
    · exact ih hnodup h
    · exact ih (Entries.nodup_insert hnodup _ _) h

/-- An environment has the value of its last text, or the one that it had before. -/
theorem get?_addTargets (hne : environment ≠ browsersKey)
    (h : addTargets targets queries arguments = .ok given) :
    match lastText? environment arguments with
    | none => given.get? environment = targets.get? environment
    | some text => ∃ value, targetValue environment text = .ok value ∧
        given.get? environment = some value := by
  induction arguments generalizing targets queries with
  | nil =>
    rw [← Except.ok.inj h]
    exact get?_withQueries targets queries hne
  | cons argument rest ih =>
    obtain ⟨key, text, hsplit, hcase⟩ := addTargets_cons_ok h
    unfold lastText? at ih ⊢
    rw [argumentTexts_cons_of_splitTarget hsplit]
    rcases hcase with ⟨rfl, h⟩ | ⟨-, value, hvalue, h⟩
    · -- A query leaves the texts of environments as they are.
      rw [if_neg hne.symm]
      exact ih h
    · have hrest := ih h
      rw [Entries.get?_insert] at hrest
      by_cases hkey : key = environment
      · obtain rfl := hkey
        rw [if_pos rfl] at hrest
        rw [if_pos rfl, List.getLast?_cons]
        -- Either a later text counts, or this one is the last.
        cases hlast : (argumentTexts key rest).getLast? with
        | some later =>
          rw [hlast] at hrest
          exact hrest
        | none =>
          rw [hlast] at hrest
          exact ⟨value, hvalue, hrest⟩
      · rw [if_neg hkey] at hrest ⊢
        exact hrest

/-- Queries that are gathered are the queries that the targets give. -/
theorem holdsQueries_withQueries (h : targets.get? browsersKey = none) (queries : List String) :
    HoldsQueries (withQueries targets queries) queries := by
  match queries with
  | [] => exact ⟨fun _ => h, fun hne => absurd rfl hne⟩
  | [query] =>
    refine ⟨fun hnil => absurd hnil (List.cons_ne_nil _ _), fun _ => ?_⟩
    rw [givenQueries?, withQueries, Entries.get?_insert, if_pos rfl]
    rfl
  | first :: second :: rest =>
    refine ⟨fun hnil => absurd hnil (List.cons_ne_nil _ _), fun _ => ?_⟩
    show givenQueries?
      (targets.insert browsersKey (.list ((first :: second :: rest).map .text))) = _
    rw [givenQueries?, Entries.get?_insert, if_pos rfl]
    exact TargetSpec.queries?_list _

/-- Texts for `browsers` are gathered behind the queries that were there before. -/
theorem holdsQueries_addTargets (hnone : targets.get? browsersKey = none)
    (h : addTargets targets queries arguments = .ok given) :
    HoldsQueries given (queries ++ argumentTexts browsersKey arguments) := by
  induction arguments generalizing targets queries with
  | nil =>
    rw [← Except.ok.inj h, argumentTexts, List.filterMap_nil, List.append_nil]
    exact holdsQueries_withQueries hnone queries
  | cons argument rest ih =>
    obtain ⟨key, text, hsplit, hcase⟩ := addTargets_cons_ok h
    rw [argumentTexts_cons_of_splitTarget hsplit]
    rcases hcase with ⟨hkey, h⟩ | ⟨hkey, value, -, h⟩
    · rw [if_pos hkey, ← List.singleton_append, ← List.append_assoc]
      exact ih hnone h
    · rw [if_neg hkey]
      refine ih ?_ h
      rw [Entries.get?_insert, if_neg hkey, hnone]

/-- Arguments that can be read become the targets that they give. -/
theorem GivesTargets.of_readTargetArguments (h : readTargetArguments arguments = .ok given) :
    GivesTargets arguments given where
  nodup := by
    have hempty : Entries.keys ([] : Entries Value) = [] := rfl
    exact nodup_addTargets (hempty ▸ List.nodup_nil) h
  last environment text hne hlast := by
    have hget := get?_addTargets hne h
    rwa [hlast] at hget
  absent environment hne hlast := by
    have hget := get?_addTargets hne h
    rwa [hlast] at hget
  queries := holdsQueries_addTargets rfl h

end TransformPreset
