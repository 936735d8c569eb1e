import TransformPreset.Proofs.Preset.Completion
import TransformPreset.Proofs.Target.Plain

/-!
# Canonical targets are canonical

Canonical targets name environments by no shorthand and give them numbers. Read as a table of
targets they ask for nothing else, so that the runtime, the electron table and the release resolver
have no say: making them canonical once more keeps every environment in its place, and turns its
integers into binary64 numbers (`Normalizer.normalize_canonical`). Integers of more than 53
significant bits are rounded on the way, and are excluded. So are specifications that name an
environment by a shorthand, as none does that was read (`Normalizer.normalize_handMade`).
-/

namespace TransformPreset

/-! ## Versions that are read once more -/

/-- What a number is once it has been read as a version: a binary64 number is itself, and an integer
is a binary64 number at its place. -/
inductive Value.ReadsAs : Value → Binary64 → Prop
  /-- A binary64 number, not-a-number too, is kept. -/
  | float (x : Binary64) : ReadsAs (.float x) x
  /-- An integer becomes a number that is equal to it. -/
  | int (n : Int) (x : Binary64) (hplace : x.place? = (Number.int n).place?) : ReadsAs (.int n) x

/-- Whether numbers are what targets are once they have been read, environment by environment. -/
def CanonicalTargets.ReadAs (targets : CanonicalTargets) (versions : Entries Binary64) : Prop :=
  List.Forall₂ (fun entry version => entry.1 = version.1 ∧ entry.2.ReadsAs version.2) targets
    versions

/-- A number that is no long integer is read as a version of any environment. -/
theorem exists_readsAs {value : Value} {n : Number} (hn : value.number? = some n)
    (hexact : ∀ k, value = .int k → k.natAbs ≤ 2 ^ 53) :
    ∃ x, value.ReadsAs x ∧ ∀ (writing : Writing) (environment : String),
      readConstraint writing environment value = .ok (.version x) := by
  obtain ⟨x, hx, hreads⟩ : ∃ x, n.toFloat = .ok x ∧ value.ReadsAs x := by
    obtain rfl := Value.eq_ofNumber_of_number? hn
    cases n with
    | float x => exact ⟨x, rfl, .float x⟩
    | int k =>
      obtain ⟨x, hx, hplace⟩ :=
        Number.exists_toFloat fun m hm => hexact m (congrArg Value.ofNumber hm)
      exact ⟨x, hx, .int k x hplace⟩
  refine ⟨x, hreads, fun writing environment => ?_⟩
  have hasks : ¬(environment = nodeKey ∧ asksCurrent value = true) := fun hboth =>
    Bool.false_ne_true ((asksCurrent_eq_false hn).symm.trans hboth.2)
  rw [readConstraint, if_neg hasks, hn]
  dsimp only
  rw [hx]
  rfl

/-- Targets that are read have the same environments, in the same order. -/
theorem CanonicalTargets.ReadAs.keys_eq {targets : CanonicalTargets} {versions : Entries Binary64}
    (h : targets.ReadAs versions) : versions.keys = targets.keys := by
  induction h with
  | nil => rfl
  | cons hentry _ ih => exact congrArg₂ List.cons hentry.1.symm ih

/-! ## Reading canonical targets -/

namespace TargetSpec

/-- An entry under a key that is no shorthand is read as a constraint. -/
theorem readEntry_of_notMem {writing : Writing} (spec : TargetSpec) {key : String}
    (hkey : key ∉ shorthandKeys) {value : Value} {c : Constraint}
    (hc : readConstraint writing key value = .ok c) :
    spec.readEntry writing key value =
      pure { spec with environments := spec.environments.insert key c } := by
  have hbrowsers : key ≠ browsersKey := fun heq => hkey (by rw [heq]; decide)
  have helectron : key ≠ electronKey := fun heq => hkey (by rw [heq]; decide)
  rw [readEntry, if_neg hbrowsers, if_neg helectron, hc]
  rfl

/-- Numbers under keys that are no shorthands are read as versions, which are laid over those that
are there. -/
theorem exists_readEntries {targets : CanonicalTargets} (hcomparable : Comparable targets)
    (hexact : ExactIntegers targets) :
    ∃ versions, targets.ReadAs versions ∧ ∀ (writing : Writing) (spec : TargetSpec),
      spec.readEntries writing targets = pure { spec with
        environments :=
          spec.environments.overlay (versions.map fun (name, x) => (name, .version x)) } := by
  induction targets with
  | nil => exact ⟨[], .nil, fun _ _ => rfl⟩
  | cons entry rest ih =>
    obtain ⟨name, value⟩ := entry
    obtain ⟨⟨hname, n, hn⟩, hrestComparable⟩ := List.forall_mem_cons.1 hcomparable
    obtain ⟨hvalue, hrestExact⟩ := List.forall_mem_cons.1 hexact
    obtain ⟨x, hx, hread⟩ := exists_readsAs hn hvalue
    obtain ⟨versions, hversions, hreadRest⟩ := ih hrestComparable hrestExact
    refine ⟨(name, x) :: versions, .cons ⟨rfl, hx⟩ hversions, fun writing spec => ?_⟩
    rw [readEntries, readEntry_of_notMem spec hname (hread writing name), pure_bind, hreadRest]
    rfl

/-- What a value is read as names its environments plainly if the value is no specification that
does not. -/
theorem namesPlainly_of_read {writing : Writing} {raw : Value} {spec : TargetSpec}
    (h : (read writing raw).result = .ok spec)
    (hraw : ∀ given, raw = .spec given → given.NamesPlainly) : spec.NamesPlainly := by
  unfold read at h
  split at h
  · obtain rfl := Except.ok.inj h
    exact ⟨List.nodup_nil, fun _ hkey => absurd hkey List.not_mem_nil⟩
  · obtain rfl := Except.ok.inj h
    exact hraw _ rfl
  · rename_i entries
    exact IsRead.namesPlainly ⟨writing, entries, h⟩
  · cases h

end TargetSpec

/-! ## Making canonical targets canonical -/

namespace Normalizer

/-- Versions that are given stand as they are. -/
theorem direct_versions (normalizer : Normalizer) (versions : Entries Binary64) :
    normalizer.direct (versions.map fun (name, x) => (name, .version x)) =
      pure (versions.map fun (name, x) => (name, .float x)) := by
  induction versions with
  | nil => rfl
  | cons entry rest ih =>
    rw [List.map_cons, direct, versionOf, pure_bind, ih, pure_bind]
    rfl

/-- Comparable targets of exact integers are made canonical without a question to the outside
world. -/
theorem exists_normalize_pure {targets : CanonicalTargets} (hcomparable : Comparable targets)
    (hexact : ExactIntegers targets) (hdistinct : targets.keys.Nodup) :
    ∃ versions, targets.ReadAs versions ∧ ∀ normalizer : Normalizer,
      normalizer.normalize (.map targets) =
        pure (versions.map fun (name, x) => (name, .float x)) := by
  obtain ⟨versions, hversions, hread⟩ := TargetSpec.exists_readEntries hcomparable hexact
  refine ⟨versions, hversions, fun normalizer => ?_⟩
  -- Nothing was there before, so that the versions stand in the order of the targets.
  have hspec : TargetSpec.read normalizer.writing (.map targets) =
      pure { environments := versions.map fun (name, x) => (name, .version x) } := by
    have hkeys : Entries.keys (versions.map fun (name, x) => (name, Constraint.version x)) =
        targets.keys := (Entries.keys_map _ versions).trans hversions.keys_eq
    have hoverlay : Entries.overlay [] (versions.map fun (name, x) => (name, .version x)) =
        versions.map fun (name, x) => (name, Constraint.version x) :=
      Entries.overlay_of_disjoint (hkeys ▸ hdistinct) fun _ _ => List.not_mem_nil
    exact (hread normalizer.writing {}).trans (by rw [hoverlay])
  rw [normalize, hspec, pure_bind, resolveSpec_eq, direct_versions, pure_bind]
  rfl

/-- Making targets canonical is a projection: made canonical once more, canonical targets keep their
environments, their order and the places of their versions, and whatever electron table, release
resolver and runtime there are, nothing is asked or logged and nothing fails. -/
theorem normalize_canonical {normalizer : Normalizer} (hnumeric : normalizer.Numeric) {raw : Value}
    (hraw : ∀ spec, raw = .spec spec → spec.NamesPlainly) {canonical : CanonicalTargets}
    (h : (normalizer.normalize raw).result = .ok canonical) (hexact : ExactIntegers canonical) :
    ∃ versions, canonical.ReadAs versions ∧ ∀ other : Normalizer,
      other.normalize (.map canonical) =
        pure (versions.map fun (name, x) => (name, .float x)) := by
  obtain ⟨spec, hread, hresolve⟩ := Traced.bind_result_ok_iff.1 h
  have hnames := TargetSpec.namesPlainly_of_read hread hraw
  have hcomparable := resolveSpec_comparable hresolve hnames.notMem_shorthandKeys hnumeric
  exact exists_normalize_pure hcomparable hexact (nodup_resolveSpec hresolve hnames.nodup)

/-- Targets with entries of every sort, which are made canonical and are canonical. -/
theorem shipped_normalize_canonical :
    ∃ canonical, ((Session.shipped 18).normalizer.normalize (.map [("browsers",
        .list [.text "safari 9.1, IE 11", .text "chrome 60"]), ("electron", .text "1.4"),
        ("firefox", .float .nan), ("node", .text "current")])).result = .ok canonical ∧
      ExactIntegers canonical ∧ ∃ versions, canonical.ReadAs versions ∧ ∀ other : Normalizer,
        other.normalize (.map canonical) =
          pure (versions.map fun (name, x) => (name, .float x)) := by
  have hall : (((Session.shipped 18).normalizer.normalize (.map [("browsers",
      .list [.text "safari 9.1, IE 11", .text "chrome 60"]), ("electron", .text "1.4"),
      ("firefox", .float .nan), ("node", .text "current")])).result.toOption.any fun canonical =>
        canonical.all fun entry => entry.2.number?.any fun n =>
          !n.lt (.int (-2 ^ 53)) && !(Number.int (2 ^ 53)).lt n) = true := by
    decide +kernel
  obtain ⟨canonical, hsome, hsmall⟩ := (Option.any_eq_true _ _).1 hall
  have hcanonical := ok_of_toOption hsome
  have hexact : ExactIntegers canonical := by
    intro entry hentry n hn
    have hentrySmall := List.all_eq_true.1 hsmall entry hentry
    rw [hn, Value.number?, Option.any_some, Number.int_lt_int, Number.int_lt_int] at hentrySmall
    simp only [Bool.and_eq_true, Bool.not_eq_true', decide_eq_false_iff_not] at hentrySmall
    omega
  exact ⟨canonical, hcanonical, hexact, normalize_canonical (Session.shipped_numeric 18)
    (fun _ h => by cases h) hcanonical hexact⟩

/-- A specification put together by hand may name electron as an environment. Its canonical targets
do so too, and made canonical once more they name chrome instead. -/
theorem normalize_handMade :
    ((Session.shipped 18).normalizer.normalize (.spec
        { environments := [("electron", .version (.ofDecimal false 14 (-1)))] })).result =
      .ok [("electron", .float (.ofDecimal false 14 (-1)))] ∧
    ∃ canonical, ((Session.shipped 18).normalizer.normalize
        (.map [("electron", .float (.ofDecimal false 14 (-1)))])).result = .ok canonical ∧
      canonical.keys = ["chrome"] := by
  refine ⟨rfl, ?_⟩
  have hseen : ((Session.shipped 18).normalizer.normalize
      (.map [("electron", .float (.ofDecimal false 14 (-1)))])).result.toOption.any
        (fun canonical => canonical.keys == ["chrome"]) = true := by
    decide +kernel
  obtain ⟨canonical, hfound, hkeys⟩ := (Option.any_eq_true _ _).1 hseen
  exact ⟨canonical, ok_of_toOption hfound, eq_of_beq hkeys⟩

end Normalizer

end TransformPreset
