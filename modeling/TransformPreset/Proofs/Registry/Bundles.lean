import TransformPreset.Proofs.Registry.LastWrite

/-!
# The units of bundles

Bundles are written into a registry one after the other, up to the first one that cannot be loaded
(`Registry.loadModuleBundles_error`). A unit that the registry holds after them is one of theirs, or
was held before (`Registry.mem_of_unit?_loadModuleBundles`). How a bundle is refused is said by
`loadBundle_failsWith`, step by step.
-/

namespace TransformPreset

/-- A failure with which a bundle can be refused: it is of one of few kinds, or a module or a
function raised it. -/
def Failure.OfBundle (failure : Failure) : Prop :=
  failure.OfKind [.value, .moduleNotFound, .type] ∨ ∃ raised, failure = .raised raised

/-- A failure of a kind with which bundles are refused. -/
theorem failsWith_ofBundle {α : Type} {failure : Failure} (kind : Failure.Kind)
    (heq : failure.kind = kind) (hmem : kind ∈ [Failure.Kind.value, .moduleNotFound, .type]) :
    FailsWith Failure.OfBundle (.error failure : Except Failure α) :=
  failsWith_error (.inl (Failure.ofKind_of_eq kind heq hmem))

/-- What is missing in a module is so for one of few reasons. -/
theorem missingWithin_ofBundle (parent : String) (members : Entries Provided) (name : String) :
    (missingWithin parent members name).OfBundle := by
  unfold missingWithin
  split
  · split
    · exact .inl (Failure.ofKind_of_eq .moduleNotFound rfl (by decide))
    · exact .inl (Failure.ofKind_of_eq .type rfl (by decide))
  · split
    · exact .inl (Failure.ofKind_of_eq .type rfl (by decide))
    · exact .inl (Failure.ofKind_of_eq .moduleNotFound rfl (by decide))

/-- Loading the modules of a path is hindered by one that raises something, or that is missing. -/
theorem pathFault?_ofBundle {sources : UnitSources} {path : List String} {failure : Failure}
    {parent? : Option (String × Entries Provided)}
    (h : pathFault? sources parent? path = some failure) : failure.OfBundle := by
  induction path generalizing parent? with
  | nil => cases h
  | cons name inner ih =>
    unfold pathFault? at h
    split at h
    · rename_i raised _
      exact .inr ⟨raised, (Option.some.inj h).symm⟩
    · split at h
      · exact ih h
      · split at h
        · rw [← Option.some.inj h]
          exact .inl (Failure.ofKind_of_eq .moduleNotFound rfl (by decide))
        · rw [← Option.some.inj h]
          exact missingWithin_ofBundle _ _ _

/-- A call fails because something is raised, or because it needs arguments. -/
theorem Provided.called_failsWith (provided : Provided) :
    FailsWith Failure.OfBundle provided.called := by
  cases provided with
  | raising raised => exact failsWith_error (.inr ⟨raised, rfl⟩)
  | procedure => exact failsWith_ofBundle .type rfl (by decide)
  | _ => exact failsWith_ok _

/-- A bundle is refused in few ways. -/
theorem loadBundle_failsWith (sources : UnitSources) (bundle : String) :
    FailsWith Failure.OfBundle (loadBundle sources bundle) := by
  refine FailsWith.bind ?spec fun _ _ => FailsWith.bind ?load fun members _ =>
    FailsWith.bind ?member fun provided? _ => ?provided
  case spec =>
    unfold parseBundleSpec
    split
    · split
      · exact failsWith_ofBundle .value rfl (by decide)
      · exact failsWith_ok _
    · exact failsWith_ofBundle .value rfl (by decide)
  case load =>
    unfold loadModule
    split
    · exact failsWith_ofBundle .type rfl (by decide)
    · split
      · rename_i hfault
        exact failsWith_error (pathFault?_ofBundle hfault)
      · exact failsWith_ok _
  case member =>
    unfold memberOf?
    split
    · exact failsWith_ok _
    · split
      · exact failsWith_ofBundle .type rfl (by decide)
      · exact failsWith_ok _
  case provided =>
    split
    · exact failsWith_ofBundle .value rfl (by decide)
    · refine FailsWith.bind (Provided.called_failsWith _) fun answer _ => ?_
      split
      · exact failsWith_ok _
      · exact failsWith_ofBundle .value rfl (by decide)

namespace Registry

variable {registry next : Registry} {sources : UnitSources} {bundles : List String}

/-- Writing the units of bundles fails as loading one of them does. -/
theorem loadModuleBundles_error {failure : Failure}
    (h : registry.loadModuleBundles sources bundles = .error failure) :
    ∃ bundle ∈ bundles, loadBundle sources bundle = .error failure := by
  induction bundles generalizing registry with
  | nil => cases h
  | cons bundle rest ih =>
    rcases except_bind_error_iff.1 h with hfirst | ⟨middle, -, hrest⟩
    · cases hload : loadBundle sources bundle with
      | error other =>
        rw [loadModuleBundle, hload] at hfirst
        exact ⟨bundle, List.mem_cons_self, hload.trans (congrArg Except.error
          (Except.error.inj hfirst))⟩
      | ok units =>
        rw [loadModuleBundle, hload] at hfirst
        cases hfirst
    · obtain ⟨found, hfound, hload⟩ := ih hrest
      exact ⟨found, List.mem_cons_of_mem _ hfound, hload⟩

/-- A unit that is held after some writes was written or was held before. -/
theorem mem_of_unit?_replaceAll {units : List NamedUnit} {id : String} {unit : NamedUnit}
    (h : (registry.replaceAll units).unit? id = some unit) :
    unit ∈ units ∨ registry.unit? id = some unit := by
  rw [unit?_replaceAll] at h
  rcases Option.or_eq_some_iff.1 h with hlast | ⟨-, hbefore⟩
  · unfold lastWrite? at hlast
    rw [List.findRev?_eq_find?_reverse] at hlast
    exact .inl (List.mem_reverse.1 (List.mem_of_find?_eq_some hlast))
  · exact .inr hbefore

/-- A unit that is held after bundles were written is one of theirs, or was held before. -/
theorem mem_of_unit?_loadModuleBundles (h : registry.loadModuleBundles sources bundles = .ok next)
    {id : String} {unit : NamedUnit} (hunit : next.unit? id = some unit) :
    (∃ bundle ∈ bundles, ∃ units, loadBundle sources bundle = .ok units ∧ unit ∈ units) ∨
      registry.unit? id = some unit := by
  induction bundles generalizing registry with
  | nil =>
    obtain rfl := Except.ok.inj h
    exact .inr hunit
  | cons bundle rest ih =>
    obtain ⟨middle, hmiddle, hrest⟩ := except_bind_ok_iff.1 h
    obtain ⟨units, hload, rfl⟩ := except_map_ok_iff.1 hmiddle
    rcases ih hrest with ⟨found, hfound, hlater⟩ | hbefore
    · exact .inl ⟨found, List.mem_cons_of_mem _ hfound, hlater⟩
    · exact (mem_of_unit?_replaceAll hbefore).imp_left fun hmem =>
        ⟨bundle, List.mem_cons_self, units, hload, hmem⟩

end Registry

end TransformPreset
