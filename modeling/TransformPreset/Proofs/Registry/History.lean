import TransformPreset.Proofs.Outcome
import TransformPreset.Registry.Discovery

/-!
# Histories of a registry

Whatever is done to a registry, what becomes of it is that some units are written, one after the
other: a step that fails has written those before the failure (`step_writes`). So a fact that a
single write keeps holds along every run (`run_writes`). Two such facts are that each unit stands
under its own id (`Sound`), and that an id that is there stays there (`isSome_replaceAll`).
-/

namespace TransformPreset

namespace Registry

variable {registry : Registry}

/-! ## Writing units -/

/-- After a write its id has the unit, and any other id what it had. -/
theorem unit?_replace (registry : Registry) (unit : NamedUnit) (id : String) :
    (registry.replace unit).unit? id = if unit.id = id then some unit else registry.unit? id :=
  Entries.get?_insert _ _ _ _

/-- Two rounds of writes are one. -/
theorem replaceAll_append (registry : Registry) (units more : List NamedUnit) :
    registry.replaceAll (units ++ more) = (registry.replaceAll units).replaceAll more :=
  List.foldl_append

/-- A registry in which each unit stands under its own id. -/
def Sound (registry : Registry) : Prop :=
  ∀ id unit, registry.unit? id = some unit → unit.id = id

/-- The empty registry has no unit under a wrong id. -/
theorem sound_empty : ({} : Registry).Sound := by
  intro id unit h
  cases h

/-- A write keeps each unit under its own id. -/
theorem Sound.replace (h : registry.Sound) (unit : NamedUnit) : (registry.replace unit).Sound := by
  intro id found hfound
  rw [unit?_replace] at hfound
  split at hfound
  · rename_i hid
    rw [← Option.some.inj hfound]
    exact hid
  · exact h id found hfound

/-- Any number of writes keep each unit under its own id. -/
theorem Sound.replaceAll (h : registry.Sound) (units : List NamedUnit) :
    (registry.replaceAll units).Sound := by
  induction units generalizing registry with
  | nil => exact h
  | cons unit rest ih => exact ih (h.replace unit)

/-- An id that is there is still there after any number of writes. -/
theorem isSome_replaceAll {id : String} (h : (registry.unit? id).isSome) (units : List NamedUnit) :
    ((registry.replaceAll units).unit? id).isSome := by
  induction units generalizing registry with
  | nil => exact h
  | cons unit rest ih =>
    refine ih ?_
    rw [unit?_replace]
    split
    · rfl
    · exact h

/-- A unit that is written gives its id to the registry. -/
theorem isSome_replaceAll_of_mem {unit : NamedUnit} {units : List NamedUnit} (h : unit ∈ units)
    (registry : Registry) : ((registry.replaceAll units).unit? unit.id).isSome := by
  induction units generalizing registry with
  | nil => exact absurd h List.not_mem_nil
  | cons first rest ih =>
    rcases List.mem_cons.1 h with rfl | hrest
    · -- The id is there after the first write, and later ones keep it.
      refine isSome_replaceAll ?_ rest
      rw [unit?_replace, if_pos rfl]
      rfl
    · exact ih hrest _

/-! ## What the operations write -/

/-- Registering several units writes those up to the first one that is refused. -/
theorem registerAll_writes (registry : Registry) (units : List NamedUnit) :
    ∃ written, (registry.registerAll units).1 = registry.replaceAll written := by
  induction units generalizing registry with
  | nil => exact ⟨[], rfl⟩
  | cons unit rest ih =>
    unfold registerAll register
    split
    · rename_i next hnext
      split at hnext
      · cases hnext
      · obtain rfl := Except.ok.inj hnext
        obtain ⟨written, hwritten⟩ := ih (registry.replace unit)
        exact ⟨unit :: written, hwritten⟩
    · exact ⟨[], rfl⟩

/-- Registering several units writes all of them if none is refused. -/
theorem registerAll_ok {units : List NamedUnit} (h : (registry.registerAll units).2 = .ok ()) :
    (registry.registerAll units).1 = registry.replaceAll units := by
  induction units generalizing registry with
  | nil => rfl
  | cons unit rest ih =>
    unfold registerAll register at h ⊢
    by_cases hhas : registry.units.has unit.id
    · rw [if_pos hhas] at h
      cases h
    · rw [if_neg hhas] at h ⊢
      exact ih h

/-- Entry points write their units up to the first one that loads to none. -/
theorem loadEntryPoints_writes (registry : Registry) (entryPoints : List Provided) :
    ∃ written, (registry.loadEntryPoints entryPoints).1 = registry.replaceAll written := by
  induction entryPoints generalizing registry with
  | nil => exact ⟨[], rfl⟩
  | cons provided rest ih =>
    unfold loadEntryPoints
    split
    · rename_i unit _
      obtain ⟨written, hwritten⟩ := ih (registry.replace unit)
      exact ⟨unit :: written, hwritten⟩
    · exact ⟨[], rfl⟩
    · exact ⟨[], rfl⟩

/-- A bundle that can be loaded is written. -/
theorem loadModuleBundle_writes {sources : UnitSources} {spec : String} {next : Registry}
    (h : registry.loadModuleBundle sources spec = .ok next) :
    ∃ written, next = registry.replaceAll written := by
  obtain ⟨units, -, hnext⟩ := except_map_ok_iff.1 h
  exact ⟨units, hnext.symm⟩

/-- Bundles that can be loaded are written, one after the other. -/
theorem loadModuleBundles_writes {sources : UnitSources} {specs : List String} {next : Registry}
    (h : registry.loadModuleBundles sources specs = .ok next) :
    ∃ written, next = registry.replaceAll written := by
  induction specs generalizing registry with
  | nil => exact ⟨[], (Except.ok.inj h).symm⟩
  | cons spec rest ih =>
    obtain ⟨middle, hmiddle, h⟩ := except_bind_ok_iff.1 h
    obtain ⟨first, rfl⟩ := loadModuleBundle_writes hmiddle
    obtain ⟨more, rfl⟩ := ih h
    exact ⟨first ++ more, (replaceAll_append registry first more).symm⟩

/-! ## Runs -/

/-- One thing that is done to a registry. -/
inductive Step
  /-- Registers a unit. -/
  | register (unit : NamedUnit)
  /-- Writes a unit. -/
  | replace (unit : NamedUnit)
  /-- Registers the units of a bundle. -/
  | registerBundle (units : List NamedUnit)
  /-- Writes the units of entry points. -/
  | loadEntryPoints (entryPoints : List Provided)
  /-- Writes the units of the bundle that a text names. -/
  | loadModuleBundle (sources : UnitSources) (spec : String)

/-- The registry after an operation that leaves it alone if it fails. -/
def orUnchanged (registry : Registry) : Except Failure Registry → Registry × Except Failure Unit
  | .ok next => (next, .ok ())
  | .error failure => (registry, .error failure)

/-- Takes a step: the registry then, and whether the step succeeds. -/
def step (registry : Registry) : Step → Registry × Except Failure Unit
  | .register unit => registry.orUnchanged (registry.register unit)
  | .replace unit => (registry.replace unit, .ok ())
  | .registerBundle units => registry.registerAll units
  | .loadEntryPoints entryPoints => registry.loadEntryPoints entryPoints
  | .loadModuleBundle sources spec =>
    registry.orUnchanged (registry.loadModuleBundle sources spec)

/-- The registry after several steps, whether or not they succeed. -/
def run (registry : Registry) (steps : List Step) : Registry :=
  steps.foldl (fun registry taken => (registry.step taken).1) registry

/-- An operation that leaves the registry alone if it fails writes units if its success does. -/
theorem orUnchanged_writes {result : Except Failure Registry}
    (h : ∀ next, result = .ok next → ∃ written, next = registry.replaceAll written) :
    ∃ written, (registry.orUnchanged result).1 = registry.replaceAll written := by
  cases result with
  | ok next => exact h next rfl
  | error failure => exact ⟨[], rfl⟩

/-- Every step writes some units. -/
theorem step_writes (registry : Registry) (taken : Step) :
    ∃ written, (registry.step taken).1 = registry.replaceAll written := by
  cases taken with
  | register unit =>
    refine orUnchanged_writes fun next hnext => ?_
    unfold register at hnext
    split at hnext
    · cases hnext
    · exact ⟨[unit], (Except.ok.inj hnext).symm⟩
  | replace unit => exact ⟨[unit], rfl⟩
  | registerBundle units => exact registerAll_writes registry units
  | loadEntryPoints entryPoints => exact loadEntryPoints_writes registry entryPoints
  | loadModuleBundle sources spec =>
    exact orUnchanged_writes fun _ hnext => loadModuleBundle_writes hnext

/-- Every run writes some units. -/
theorem run_writes (registry : Registry) (steps : List Step) :
    ∃ written, registry.run steps = registry.replaceAll written := by
  induction steps generalizing registry with
  | nil => exact ⟨[], rfl⟩
  | cons taken rest ih =>
    obtain ⟨first, hfirst⟩ := step_writes registry taken
    obtain ⟨more, hmore⟩ := ih (registry.step taken).1
    refine ⟨first ++ more, ?_⟩
    rw [replaceAll_append, ← hfirst]
    exact hmore

/-! ## Discovery -/

/-- A discovered registry has the units that the tables call for, written over by others. -/
theorem discover_writes {tables : CapabilityTables} {sources : UnitSources} {specs : List String}
    (h : discover tables sources specs = .ok registry) :
    ∃ written,
      registry = (({} : Registry).replaceAll (builtInUnits tables)).replaceAll written := by
  obtain ⟨ofTables, htables, h⟩ := except_bind_ok_iff.1 h
  obtain ⟨announced, hannounced, hbundles⟩ := except_bind_ok_iff.1 h
  obtain ⟨⟨⟩, hregistered, rfl⟩ := except_map_ok_iff.1 htables
  obtain ⟨⟨⟩, -, rfl⟩ := except_map_ok_iff.1 hannounced
  -- The registration of the tables' units has succeeded, so it has written all of them.
  rw [registerAll_ok hregistered] at hbundles
  obtain ⟨announced, hwritten⟩ := loadEntryPoints_writes _ sources.entryPoints
  rw [hwritten] at hbundles
  obtain ⟨bundled, rfl⟩ := loadModuleBundles_writes hbundles
  exact ⟨announced ++ bundled, (replaceAll_append _ announced bundled).symm⟩

/-- In a discovered registry each unit stands under its own id. -/
theorem sound_of_discover {tables : CapabilityTables} {sources : UnitSources} {specs : List String}
    (h : discover tables sources specs = .ok registry) : registry.Sound := by
  obtain ⟨written, rfl⟩ := discover_writes h
  exact (sound_empty.replaceAll _).replaceAll _

/-- Along a run each unit stays under its own id. -/
theorem Sound.run (h : registry.Sound) (steps : List Step) : (registry.run steps).Sound := by
  obtain ⟨written, hwritten⟩ := run_writes registry steps
  rw [hwritten]
  exact h.replaceAll written

/-- A registry that some run reaches from the empty one or from a discovered one. -/
inductive Reachable : Registry → Prop
  /-- A run from the empty registry. -/
  | empty (steps : List Step) : Reachable (({} : Registry).run steps)
  /-- A run from a discovered registry. -/
  | discovered {start : Registry} {tables : CapabilityTables} {sources : UnitSources}
      {specs : List String} (h : discover tables sources specs = .ok start) (steps : List Step) :
      Reachable (start.run steps)

/-- In a registry that a run reaches each unit stands under its own id. -/
theorem Reachable.sound (h : registry.Reachable) : registry.Sound := by
  cases h with
  | empty steps => exact sound_empty.run steps
  | discovered h steps => exact (sound_of_discover h).run steps

/-- A discovered registry has, and keeps, every unit that the tables call for. -/
theorem isSome_of_discover {tables : CapabilityTables} {sources : UnitSources}
    {specs : List String} (h : discover tables sources specs = .ok registry) (steps : List Step)
    {unit : NamedUnit} (hunit : unit ∈ builtInUnits tables) :
    ((registry.run steps).unit? unit.id).isSome := by
  obtain ⟨written, rfl⟩ := discover_writes h
  obtain ⟨more, hmore⟩ := run_writes _ steps
  rw [hmore]
  exact isSome_replaceAll (isSome_replaceAll (isSome_replaceAll_of_mem hunit _) written) more

end Registry

/-! ## The units that the tables call for -/

/-- Every plugin of the tables has a unit. -/
theorem ofId_mem_builtInUnits_of_plugin {tables : CapabilityTables} {name : String}
    (h : name ∈ tables.plugins.keys) : NamedUnit.ofId name ∈ builtInUnits tables :=
  List.mem_append_left _ (List.mem_map_of_mem (mem_distinct.2 (List.mem_append_left _ h)))

/-- Every module transformation of the tables has a unit. -/
theorem ofId_mem_builtInUnits_of_module {tables : CapabilityTables} {name : String}
    (h : name ∈ tables.modules.map Prod.snd) : NamedUnit.ofId name ∈ builtInUnits tables :=
  List.mem_append_left _ (List.mem_map_of_mem (mem_distinct.2 (List.mem_append_right _ h)))

/-- The polyfills have a unit. -/
theorem ofId_mem_builtInUnits_of_polyfills (tables : CapabilityTables) :
    NamedUnit.ofId polyfillUnitId ∈ builtInUnits tables :=
  List.mem_append_right _ List.mem_cons_self

end TransformPreset
