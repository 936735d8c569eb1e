import TransformPreset.Proofs.Capability.Agreement
import TransformPreset.Proofs.Number.Rounding

/-!
# Capabilities that are not required

That a capability is not required should mean that every targeted environment is known to implement
it. The decision asks the opposite of each target: whether its version is less than the one of the
capability. Of two numbers with places, one is less unless the other is at most as much, so that a
negative answer is the proof that it should be. Not-a-number is less than nothing, so a target of
that version is passed although nothing is known of it (`not_required_for_nan`).

`isRequired_failSafe` says this of targets of any form and of the canonical targets that they
become. A table without shorthands is compared as it is, and its integers before they are rounded,
which only makes a difference to a version of the capability that no binary64 number is equal to.
-/

namespace TransformPreset

variable {normalizer : Normalizer} {targets : Value} {entries : Entries Value}
  {canonical : CanonicalTargets} {capability : Entries Value} {environment : String}

/-! ## Versions that are enough -/

/-- Whether all versions of a capability are numbers that have a place. -/
def Ordinary (capability : Entries Value) : Prop :=
  ∀ entry ∈ capability, ∃ m, Value.number? entry.2 = some m ∧ m.place?.isSome

/-- Why the version that implements a capability is enough for a canonical target. -/
inductive Enough (targets : Value) (environment : String) (implemented targeted : Number) : Prop
  /-- It is at most the targeted one. -/
  | atMost (h : implemented.le targeted = true)
  /-- The targeted one is not-a-number, of which nothing is known. -/
  | notANumber (h : targeted = .float .nan)
  /-- It is at most the integer that was given before rounding, and no binary64 number is equal to
  it. -/
  | beforeRounding (entries : Entries Value) (given : Int) (htargets : targets = .map entries)
      (hgiven : (environment, .int given) ∈ entries)
      (hbetween : ∀ y, (Number.float y).place? ≠ implemented.place?)
      (h : implemented.le (.int given) = true)

/-- What is known of canonical targets when a capability is not required for the targets that they
were made of: there is a target, and the capability has a version for each that is enough. -/
structure Implemented (targets : Value) (canonical : CanonicalTargets)
    (capability : Entries Value) : Prop where
  /-- Something is targeted. -/
  nonempty : canonical ≠ []
  /-- Every target has a version that is enough. -/
  enough : ∀ environment targeted, (environment, targeted) ∈ canonical →
    ∃ version m n, capability.get? environment = some version ∧ version.number? = some m ∧
      Value.number? targeted = some n ∧ Enough targets environment m n

namespace Number

/-- A number with a place is at most every number that is not less, unless that is
not-a-number. -/
theorem le_or_eq_nan {m n : Number} (hm : m.place?.isSome) (h : n.lt m = false) :
    m.le n = true ∨ n = .float .nan := by
  by_cases hn : n.place?.isSome
  · exact .inl (le_of_not_lt hm hn h)
  · right
    by_contra hnan
    exact hn (isSome_place? hnan)

/-- A number with a place that a given integer is not less than is at most the number that the
integer is rounded to, if a binary64 number is equal to it. -/
theorem le_ofInt? {m : Number} {given : Int} {x y : Binary64} (hx : Binary64.ofInt? given = some x)
    (hy : (float y).place? = m.place?) (hm : m.place?.isSome) (h : (int given).lt m = false) :
    m.le (float x) = true := by
  have hrounded : (float x).lt (float y) = false := by
    refine lt_eq_false_of_ofInt? hx ?_
    rw [lt, hy]
    exact h
  rw [lt, hy] at hrounded
  obtain ⟨hunits, rfl⟩ := Binary64.exists_finite_of_ofInt? hx
  exact le_of_not_lt hm rfl hrounded

end Number

/-! ## Targets that are compared as they are -/

/-- A version of a capability that is not required for targets as they are is a number with a place,
and the number that is targeted is not less. -/
theorem not_lt_of_requiredFor (hordinary : Ordinary capability)
    (h : requiredFor writing canonical capability = .ok false) {targeted : Value}
    (hmem : (environment, targeted) ∈ canonical) :
    ∃ version m n, capability.get? environment = some version ∧ version.number? = some m ∧
      targeted.number? = some n ∧ m.place?.isSome ∧ n.lt m = false := by
  obtain ⟨-, hnumbers, hlacks⟩ := requiredFor_eq_false_iff.1 h
  obtain ⟨n, hn⟩ := hnumbers _ hmem
  obtain ⟨version, a, b, hversion, ha, hb, hlt⟩ := lacks_eq_false_iff.1 (hlacks _ hmem)
  obtain ⟨m, hm, hplace⟩ := hordinary _ (Entries.mem_of_get? hversion)
  obtain rfl := Option.some.inj ((Value.ordinal?_of_number? hn).symm.trans ha)
  obtain rfl := Option.some.inj ((Value.ordinal?_of_number? hm).symm.trans hb)
  exact ⟨version, m, n, hversion, hm, hn, hplace, hlt⟩

/-- A capability that is not required for canonical targets is implemented in all of them. -/
theorem implemented_of_requiredFor (hordinary : Ordinary capability)
    (h : requiredFor writing canonical capability = .ok false) :
    Implemented targets canonical capability where
  nonempty := (requiredFor_eq_false_iff.1 h).1
  enough environment targeted hmem := by
    obtain ⟨version, m, n, hversion, hm, hn, hplace, hlt⟩ := not_lt_of_requiredFor hordinary h hmem
    refine ⟨version, m, n, hversion, hm, hn, ?_⟩
    rcases Number.le_or_eq_nan hplace hlt with hle | hnan
    · exact .atMost hle
    · exact .notANumber hnan

/-- A table that uses no shorthand has none of their keys. -/
theorem notMem_keys_of_plain (hplain : usesShorthand entries = false) :
    ∀ key ∈ shorthandKeys, key ∉ entries.keys := by
  intro key hkey hmem
  have hhas := (Bool.or_eq_false_iff.1 hplain).1
  rw [List.any_eq_false] at hhas
  exact hhas key hkey ((Entries.has_iff entries key).2 hmem)

/-- A plain table gives a canonical target the number that it has for the environment, as a binary64
number. -/
theorem given_of_normalize (hdistinct : entries.keys.Nodup)
    (hplain : usesShorthand entries = false)
    (h : (normalizer.normalize (.map entries)).result = .ok canonical) {targeted : Value}
    (hmem : (environment, targeted) ∈ canonical) :
    ∃ value n x, (environment, value) ∈ entries ∧ value.number? = some n ∧ n.toFloat = .ok x ∧
      targeted = .float x := by
  obtain ⟨hkeys, hget⟩ :=
    Normalizer.normalize_of_notMem (notMem_keys_of_plain hplain) hdistinct h
  have hfound := Entries.get?_of_mem (hkeys ▸ hdistinct) hmem
  rw [hget] at hfound
  obtain ⟨value, hvalue, hversion⟩ := Option.bind_eq_some_iff.1 hfound
  have hentry := Entries.mem_of_get? hvalue
  rw [Normalizer.directVersion?, if_neg (plain_of_usesShorthand hdistinct hplain _ hentry).2]
    at hversion
  obtain ⟨n, hn, hversion⟩ := Option.bind_eq_some_iff.1 hversion
  obtain ⟨x, hx, rfl⟩ := Option.map_eq_some_iff.1 hversion
  exact ⟨value, n, x, hentry, hn, ok_of_toOption hx, rfl⟩

/-- A capability that is not required for a plain table is implemented in its canonical targets. -/
theorem implemented_of_plain (hdistinct : entries.keys.Nodup)
    (hplain : usesShorthand entries = false)
    (hcanonical : (normalizer.normalize (.map entries)).result = .ok canonical)
    (hordinary : Ordinary capability) (h : requiredFor writing entries capability = .ok false) :
    Implemented (.map entries) canonical capability where
  nonempty := by
    obtain ⟨hkeys, -⟩ :=
      Normalizer.normalize_of_notMem (notMem_keys_of_plain hplain) hdistinct hcanonical
    rintro rfl
    exact (requiredFor_eq_false_iff.1 h).1 (List.map_eq_nil_iff.1 hkeys.symm)
  enough environment targeted hmem := by
    obtain ⟨value, n, x, hentry, hn, hx, rfl⟩ :=
      given_of_normalize hdistinct hplain hcanonical hmem
    obtain ⟨version, m, k, hversion, hm, hk, hplace, hlt⟩ :=
      not_lt_of_requiredFor hordinary h hentry
    obtain rfl := Option.some.inj (hn.symm.trans hk)
    refine ⟨version, m, .float x, hversion, hm, rfl, ?_⟩
    cases n with
    | float y =>
      obtain rfl : y = x := Except.ok.inj hx
      rcases Number.le_or_eq_nan hplace hlt with hle | hnan
      · exact .atMost hle
      · exact .notANumber hnan
    | int given =>
      obtain rfl : value = .int given := Value.eq_ofNumber_of_number? hn
      have hrounded : Binary64.ofInt? given = some x := by
        cases hfound : Binary64.ofInt? given with
        | none =>
          rw [Number.toFloat, hfound] at hx
          cases hx
        | some y =>
          rw [Number.toFloat, hfound] at hx
          rw [Except.ok.inj hx]
      by_cases hexact : ∃ y, (Number.float y).place? = m.place?
      · obtain ⟨y, hy⟩ := hexact
        exact .atMost (Number.le_ofInt? hrounded hy hplace hlt)
      · exact .beforeRounding entries given rfl hentry (fun y hy => hexact ⟨y, hy⟩)
          (Number.le_of_not_lt hplace rfl hlt)

/-! ## Targets of any form -/

/-- A capability that is not required for targets that become canonical is implemented in all of
the canonical ones. -/
theorem isRequired_failSafe (normalizer : Normalizer) (targets : Value)
    (hdistinct : ∀ raw : Entries Value, targets = .map raw → raw.keys.Nodup)
    (hcanonical : (normalizer.normalize targets).result = .ok canonical)
    (hordinary : Ordinary capability)
    (hanswer : (isRequired normalizer targets capability).result = .ok false) :
    Implemented targets canonical capability := by
  cases targets with
  | map entries =>
    cases hshort : usesShorthand entries with
    | true =>
      rw [isRequired_of_shorthand hshort, hcanonical] at hanswer
      exact implemented_of_requiredFor hordinary hanswer
    | false =>
      rw [isRequired_of_plain hshort] at hanswer
      exact implemented_of_plain (hdistinct entries rfl) hshort hcanonical hordinary hanswer
  | spec spec =>
    rw [isRequired_of_spec, ← Normalizer.normalize_spec, hcanonical] at hanswer
    exact implemented_of_requiredFor hordinary hanswer
  -- Nothing cannot be looked through for shorthands, and other values never become canonical.
  | null => cases hanswer
  | _ => cases hcanonical

/-- The running version and a version of safari are at least the ones of a capability that is not
required for them. -/
theorem shipped_isRequired_failSafe :
    ∃ canonical, ((Session.shipped 18).normalizer.normalize
        (.map [("node", .text "current"), ("safari", .int 10)])).result = .ok canonical ∧
      (isRequired (Session.shipped 18).normalizer
        (.map [("node", .text "current"), ("safari", .int 10)])
        [("safari", .int 10), ("node", .int 6)]).result = .ok false ∧
      Implemented (.map [("node", .text "current"), ("safari", .int 10)]) canonical
        [("safari", .int 10), ("node", .int 6)] := by
  obtain ⟨canonical, hcanonical⟩ : ∃ canonical, ((Session.shipped 18).normalizer.normalize
      (.map [("node", .text "current"), ("safari", .int 10)])).result = .ok canonical :=
    exists_ok_of_isSome (by decide +kernel)
  have hanswer : (isRequired (Session.shipped 18).normalizer
      (.map [("node", .text "current"), ("safari", .int 10)])
      [("safari", .int 10), ("node", .int 6)]).result = .ok false :=
    ok_of_toOption (by decide +kernel)
  have hordinary : Ordinary [("safari", .int 10), ("node", .int 6)] := by
    rintro entry hentry
    rcases List.mem_cons.1 hentry with rfl | hentry
    · exact ⟨.int 10, rfl, rfl⟩
    · obtain rfl := List.mem_singleton.1 hentry
      exact ⟨.int 6, rfl, rfl⟩
  refine ⟨canonical, hcanonical, hanswer,
    isRequired_failSafe (Session.shipped 18).normalizer _ ?_ hcanonical hordinary hanswer⟩
  rintro raw hraw
  obtain rfl := Value.map.inj hraw
  decide

/-- A capability is not required for a target that is not-a-number, although its version is not at
most that. -/
theorem not_required_for_nan :
    ((Session.shipped 18).normalizer.normalize (.map [("chrome", .float .nan)])).result =
      .ok [("chrome", .float .nan)] ∧
    (isRequired (Session.shipped 18).normalizer (.map [("chrome", .float .nan)])
      [("chrome", .int 50)]).result = .ok false ∧
    (Number.int 50).le (.float .nan) = false :=
  ⟨rfl, rfl, rfl⟩

end TransformPreset
