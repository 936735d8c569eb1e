import Mathlib.Algebra.Group.Nat.Defs
import TransformPreset.Proofs.Target.Meaning

/-!
# Tables without shorthands

A table of targets that uses no shorthand means what its entries say. If it has only numbers as
versions it becomes canonical with the same environments in the same order, and versions at the same
places of the number line (`Normalizer.exists_alike`), as long as its integers have at most 53
significant bits. Otherwise reading it fails for its first version that is no number
(`TargetSpec.read_error_of_checkVersions`), as checking the versions does.
-/

namespace TransformPreset

variable {normalizer : Normalizer} {writing : Writing} {targets : Entries Value}
  {canonical : CanonicalTargets}

/-! ## Versions at the same places -/

/-- Whether two values are numbers at the same place. -/
def Value.Alike (value other : Value) : Prop :=
  ∃ m n, value.number? = some m ∧ other.number? = some n ∧ m.place? = n.place?

/-- Whether targets have the same environments in the same order, with numbers at the same
places. -/
def CanonicalTargets.Alike (targets others : CanonicalTargets) : Prop :=
  List.Forall₂ (fun entry other => entry.1 = other.1 ∧ entry.2.Alike other.2) targets others

/-- Whether all integers of a table have at most 53 significant bits. -/
def ExactIntegers (targets : Entries Value) : Prop :=
  ∀ entry ∈ targets, ∀ n, entry.2 = .int n → n.natAbs ≤ 2 ^ 53

/-- Whether a table names environments only, and asks for no running version. -/
def Plain (targets : Entries Value) : Prop :=
  ∀ entry ∈ targets, entry.1 ∉ shorthandKeys ∧ ¬(entry.1 = nodeKey ∧ asksCurrent entry.2 = true)

/-- A table that uses no shorthand is plain. -/
theorem plain_of_usesShorthand (hdistinct : targets.keys.Nodup)
    (h : usesShorthand targets = false) : Plain targets := by
  obtain ⟨hkeys, hnode⟩ := Bool.or_eq_false_iff.1 h
  rintro ⟨key, value⟩ hentry
  refine ⟨fun hkey => ?_, ?_⟩
  · have hhas := Bool.eq_false_iff.1 hkeys
    exact hhas (List.any_eq_true.2
      ⟨key, hkey, (Entries.has_iff targets key).2 (Entries.mem_keys_of_mem hentry)⟩)
  · rintro ⟨rfl, hasks⟩
    rw [Entries.get?_of_mem hdistinct hentry, Option.any_some] at hnode
    exact Bool.false_ne_true (hnode.symm.trans hasks)

/-- Maps with the same keys are related entry by entry if what is looked up in them is. -/
theorem Entries.forall₂_of_get? {α β : Type} {R : α → β → Prop} {entries : Entries α}
    {others : Entries β} (hdistinct : entries.keys.Nodup) (hkeys : others.keys = entries.keys)
    (h : ∀ key a b, entries.get? key = some a → others.get? key = some b → R a b) :
    List.Forall₂ (fun entry other => entry.1 = other.1 ∧ R entry.2 other.2) entries others := by
  induction entries generalizing others with
  | nil =>
    rw [List.map_eq_nil_iff.1 hkeys]
    exact .nil
  | cons entry rest ih =>
    obtain ⟨name, a⟩ := entry
    obtain ⟨hname, hrest⟩ := List.nodup_cons.1 hdistinct
    cases others with
    | nil => cases hkeys
    | cons other others =>
      obtain ⟨name', b⟩ := other
      have hcons : name' :: keys others = name :: keys rest := hkeys
      obtain ⟨rfl, hothers⟩ := List.cons.inj hcons
      refine .cons ⟨rfl, h name' a b ?_ ?_⟩ (ih hrest hothers fun key a b ha hb => ?_)
      · rw [get?_cons, if_pos rfl]
      · rw [get?_cons, if_pos rfl]
      · -- The key of a later entry is not that of the first one.
        have hne : name' ≠ key := fun heq =>
          hname (heq ▸ mem_keys_of_mem (mem_of_get? ha))
        exact h key a b (by rw [get?_cons, if_neg hne, ha]) (by rw [get?_cons, if_neg hne, hb])

/-- A number that is no long integer has a binary64 number at its place. -/
theorem Number.exists_toFloat {n : Number} (hexact : ∀ k, n = .int k → k.natAbs ≤ 2 ^ 53) :
    ∃ x, n.toFloat = .ok x ∧ (float x).place? = n.place? := by
  cases n with
  | float x => exact ⟨x, rfl, rfl⟩
  | int k =>
    obtain ⟨x, hx, hplace⟩ := place?_ofInt? (hexact k rfl)
    exact ⟨x, by rw [toFloat, hx]; rfl, hplace⟩

/-- The number of an entry of a table of exact integers has a binary64 number at its place. -/
theorem ExactIntegers.exists_toFloat (h : ExactIntegers targets) {entry : String × Value}
    (hentry : entry ∈ targets) {n : Number} (hn : entry.2.number? = some n) :
    ∃ x, n.toFloat = .ok x ∧ (Number.float x).place? = n.place? := by
  refine Number.exists_toFloat fun k hk => h entry hentry k ?_
  rw [Value.eq_ofNumber_of_number? hn, hk]
  rfl

/-! ## Canonical targets of plain tables -/

namespace Normalizer

/-- A table without the keys of shorthands means what its entries give their environments, in their
order. -/
theorem normalize_of_notMem (hnone : ∀ key ∈ shorthandKeys, key ∉ targets.keys)
    (hdistinct : targets.keys.Nodup)
    (h : (normalizer.normalize (.map targets)).result = .ok canonical) :
    canonical.keys = targets.keys ∧ ∀ environment, canonical.get? environment =
      (targets.get? environment).bind (normalizer.directVersion? environment) := by
  have hmeans := means_of_normalize hdistinct h
  have helectron : givenElectron? targets = none := by
    rw [givenElectron?, (Entries.get?_eq_none_iff targets _).2 (hnone electronKey (by decide))]
    rfl
  have hreleases : normalizer.givenReleases targets = [] := by
    rw [givenReleases, givenQueries?,
      (Entries.get?_eq_none_iff targets _).2 (hnone browsersKey (by decide))]
    rfl
  have hdirect : directKeys targets = targets.keys :=
    List.filter_eq_self.2 fun key hkey => decide_eq_true fun hshort => hnone key hshort hkey
  have hbrowsers : normalizer.browserKeys targets = [] := by
    rw [browserKeys, hreleases]
    rfl
  constructor
  · rw [hmeans.keys, targetOrder, hbrowsers, upperKeys, helectron, hdirect, List.nil_append]
    exact List.filter_eq_self.2 fun key _ => decide_eq_true List.not_mem_nil
  · intro environment
    rw [hmeans.get?, target?, electronTarget?, helectron, directTarget?, browserTarget?, hreleases]
    have hshort : environment ∈ shorthandKeys → targets.get? environment = none := fun hmem =>
      (Entries.get?_eq_none_iff targets _).2 (hnone environment hmem)
    by_cases hmem : environment ∈ shorthandKeys
    · rw [if_pos hmem, hshort hmem]
      split <;> rfl
    · rw [if_neg hmem]
      have hempty : (minVersion? [] environment).map Value.int = none := rfl
      rw [hempty, Option.or_none]
      split <;> exact Option.none_or

/-- A table without the keys of shorthands is resolvable if its entries give their environments
versions. -/
theorem resolvable_of_notMem (hnone : ∀ key ∈ shorthandKeys, key ∉ targets.keys)
    (hdirect : ∀ environment value, targets.get? environment = some value →
      (normalizer.directVersion? environment value).isSome) : normalizer.Resolvable targets where
  direct environment value _ hget := hdirect environment value hget
  electron value hvalue := by
    rw [givenElectron?, (Entries.get?_eq_none_iff targets _).2 (hnone electronKey (by decide))]
      at hvalue
    cases hvalue
  browsers queries hqueries := by
    rw [givenQueries?, (Entries.get?_eq_none_iff targets _).2 (hnone browsersKey (by decide))]
      at hqueries
    cases hqueries
  warning value hget := by
    rw [(Entries.get?_eq_none_iff targets _).2 (hnone browsersKey (by decide))] at hget
    cases hget

/-- A plain table of numbers becomes canonical, with numbers at the same places. -/
theorem exists_alike (normalizer : Normalizer) (hplain : Plain targets)
    (hexact : ExactIntegers targets) (hdistinct : targets.keys.Nodup)
    (hnumbers : ∀ entry ∈ targets, ∃ n, Value.number? entry.2 = some n) :
    ∃ canonical, (normalizer.normalize (.map targets)).result = .ok canonical ∧
      CanonicalTargets.Alike targets canonical := by
  have hnone : ∀ key ∈ shorthandKeys, key ∉ targets.keys := by
    intro key hkey hmem
    obtain ⟨entry, hentry, rfl⟩ := List.mem_map.1 hmem
    exact (hplain entry hentry).1 hkey
  have hversion : ∀ environment value, targets.get? environment = some value →
      ∃ n x, value.number? = some n ∧
        normalizer.directVersion? environment value = some (.float x) ∧
        (Number.float x).place? = n.place? := by
    intro environment value hget
    have hentry := Entries.mem_of_get? hget
    obtain ⟨n, hn⟩ := hnumbers _ hentry
    obtain ⟨x, hx, hplace⟩ := hexact.exists_toFloat hentry hn
    refine ⟨n, x, hn, ?_, hplace⟩
    rw [directVersion?, if_neg (hplain _ hentry).2, hn, Option.bind_some, hx]
    rfl
  obtain ⟨canonical, hcanonical⟩ : ∃ canonical,
      (normalizer.normalize (.map targets)).result = .ok canonical := by
    refine (exists_normalize_iff normalizer hdistinct).2 (resolvable_of_notMem hnone ?_)
    intro environment value hget
    obtain ⟨n, x, -, hx, -⟩ := hversion environment value hget
    rw [hx]
    rfl
  obtain ⟨hkeys, hget⟩ := normalize_of_notMem hnone hdistinct hcanonical
  refine ⟨canonical, hcanonical, Entries.forall₂_of_get? hdistinct hkeys ?_⟩
  intro environment value version hvalue hversion'
  obtain ⟨n, x, hn, hx, hplace⟩ := hversion environment value hvalue
  rw [hget, hvalue, Option.bind_some, hx] at hversion'
  obtain rfl := Option.some.inj hversion'
  exact ⟨n, .float x, hn, rfl, hplace.symm⟩

end Normalizer

/-! ## Plain tables that cannot be read -/

namespace TargetSpec

/-- Reading a plain table fails for its first version that is no number, as checking its versions
does. -/
theorem readEntries_error_of_checkVersions (spec : TargetSpec) (hplain : Plain targets)
    (hexact : ExactIntegers targets) {failure : Failure}
    (h : checkVersions writing targets = .error failure) :
    (spec.readEntries writing targets).result = .error failure := by
  induction targets generalizing spec with
  | nil => cases h
  | cons entry rest ih =>
    obtain ⟨key, value⟩ := entry
    have hshort : key ∉ shorthandKeys := (hplain _ List.mem_cons_self).1
    have hasks : ¬(key = nodeKey ∧ asksCurrent value = true) :=
      (hplain _ List.mem_cons_self).2
    have hrestPlain : Plain rest := (List.forall_mem_cons.1 hplain).2
    have hrestExact : ExactIntegers rest := (List.forall_mem_cons.1 hexact).2
    have hbrowsers : key ≠ browsersKey := fun heq => hshort (by rw [heq]; decide)
    have helectron : key ≠ electronKey := fun heq => hshort (by rw [heq]; decide)
    rw [checkVersions] at h
    cases hn : value.number? with
    | none =>
      have hconstraint : readConstraint writing key value =
          .error (value.showing writing.levels (.versionNotNumber key value)) := by
        rw [readConstraint, if_neg hasks, hn]
      rw [hn] at h
      dsimp only at h
      rw [Except.error.inj h] at hconstraint
      refine Traced.bind_result_error_iff.2 (.inl ?_)
      rw [readEntry, if_neg hbrowsers, if_neg helectron]
      exact Traced.bind_result_error_iff.2 (.inl hconstraint)
    | some n =>
      rw [hn] at h
      dsimp only at h
      obtain ⟨x, hx, -⟩ := hexact.exists_toFloat List.mem_cons_self hn
      have hread : readConstraint writing key value = .ok (.version x) := by
        rw [readConstraint, if_neg hasks, hn]
        dsimp only
        rw [hx]
        rfl
      obtain ⟨mid, hmid⟩ := (exists_readEntry_iff writing spec key value).2
        ⟨fun heq => absurd heq hbrowsers, fun heq => absurd heq helectron, fun _ => ⟨_, hread⟩⟩
      exact Traced.bind_result_error_iff.2 (.inr ⟨mid, hmid, ih mid hrestPlain hrestExact h⟩)

/-- Reading a plain table of targets fails as checking its versions does. -/
theorem read_error_of_checkVersions (hplain : Plain targets) (hexact : ExactIntegers targets)
    {failure : Failure} (h : checkVersions writing targets = .error failure) :
    (read writing (.map targets)).result = .error failure :=
  readEntries_error_of_checkVersions {} hplain hexact h

end TargetSpec

end TransformPreset
