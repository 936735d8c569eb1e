import TransformPreset.Proofs.Entries
import TransformPreset.Proofs.Registry.History

/-!
# The last write counts

A registry is to be a map in which the last write of an id counts. What that means is said without
a registry: a run of steps has a log of the units that it writes (`Registry.log`), each step of
which is decided by the ids that are in the log already, and under an id the log holds the unit that
was written last (`lastWrite?`). Every step does to a registry what it does to the log
(`Registry.unit?_step`), so a registry that a run has reached answers from the log
(`Registry.run_holdsLast`). The five steps differ in what they refuse and in what is left of a step
that is refused (`Registry.Operates`).
-/

namespace TransformPreset

/-! ## Logs -/

/-- The unit that was written last under an id. -/
def lastWrite? (log : List NamedUnit) (id : String) : Option NamedUnit :=
  log.findRev? fun unit => unit.id = id

/-- The units of a bundle before the first one whose id is taken, or is that of an earlier unit. -/
def admitted (taken : List String) : List NamedUnit → List NamedUnit
  | [] => []
  | unit :: rest => if unit.id ∈ taken then [] else unit :: admitted (unit.id :: taken) rest

/-- The unit that an entry point loads to. -/
def Provided.unit? (provided : Provided) : Option NamedUnit :=
  match provided.called with
  | .ok (.unit named) => some named
  | _ => none

/-- The units of entry points up to the first one that loads to none. -/
def announcedUnits : List Provided → List NamedUnit
  | [] => []
  | provided :: rest =>
    match provided.unit? with
    | some unit => unit :: announcedUnits rest
    | none => []

/-- Whether a module with the given members can be loaded: it is named from the outermost package,
it is there, and neither it nor a package around it raises anything. -/
def LoadsTo (sources : UnitSources) (name : String) (members : Entries Provided) : Prop :=
  name.toList.head? ≠ some '.' ∧
    (∀ package ∈ modulePath name, sources.raising.get? package = none) ∧
    sources.modules.get? name = some members

/-- Where a text leads to a bundle of units: around its first colon it names a module and a member
of the module, and the member is the bundle or a function that answers with it. -/
def BundleAt (sources : UnitSources) (spec : String) (units : List NamedUnit) : Prop :=
  ∃ moduleName member members provided,
    spec.toList = moduleName ++ ':' :: member ∧ ':' ∉ moduleName ∧
      moduleName ≠ [] ∧ member ≠ [] ∧ LoadsTo sources (String.ofList moduleName) members ∧
      members.get? (String.ofList member) = some provided ∧ provided.called = .ok (.bundle units)

namespace Registry

/-- The units that a step writes when some ids are taken. -/
def Step.writes (taken : List String) : Step → List NamedUnit
  | .register unit => admitted taken [unit]
  | .replace unit => [unit]
  | .registerBundle units => admitted taken units
  | .loadEntryPoints entryPoints => announcedUnits entryPoints
  | .loadModuleBundle sources spec => (loadBundle sources spec).toOption.getD []

/-- The log with what further steps write. -/
def extendLog (log : List NamedUnit) (steps : List Step) : List NamedUnit :=
  steps.foldl (fun log taken => log ++ taken.writes (log.map NamedUnit.id)) log

/-- The units that a run of steps writes, in order. -/
def log (steps : List Step) : List NamedUnit :=
  extendLog [] steps

/-- Whether a registry refuses a unit of a bundle, after earlier ones of the bundle: its id is
present, or is that of an earlier unit. -/
def Refuses (registry : Registry) (earlier : List NamedUnit) (unit : NamedUnit) : Prop :=
  (registry.unit? unit.id).isSome ∨ unit.id ∈ earlier.map NamedUnit.id

/-- A registry in which the last write of a log counts. -/
structure HoldsLast (registry : Registry) (log : List NamedUnit) : Prop where
  /-- Under each id stands the unit that was written last under it. -/
  unit? : ∀ id, registry.unit? id = lastWrite? log id
  /-- Every stored unit stands under its own id. -/
  own : ∀ id unit, (id, unit) ∈ registry.units → unit.id = id
  /-- The listing rises strictly by the code points of ids, so it lists no unit twice. -/
  list_sorted : registry.list.Pairwise fun a b => a.id < b.id
  /-- It lists the units that are stored, and nothing else. -/
  mem_list : ∀ unit, unit ∈ registry.list ↔ registry.unit? unit.id = some unit
  /-- An id cannot be required exactly if there is no unit under it. -/
  require : ∀ id, (∃ failure, registry.require id = .error failure) ↔ registry.unit? id = none

/-- What each kind of step does to a registry. -/
structure Operates (registry : Registry) : Prop where
  /-- Writing several units leaves under each id the last of them, or what was there. -/
  writes : ∀ units id,
    (registry.replaceAll units).unit? id = (lastWrite? units id).or (registry.unit? id)
  /-- No run makes an id disappear. -/
  stays : ∀ steps id, (registry.unit? id).isSome → ((registry.run steps).unit? id).isSome
  /-- A unit is registered unless its id is present; then nothing changes. -/
  register : ∀ unit, registry.step (.register unit) =
    if (registry.unit? unit.id).isSome then (registry, .error (.unitDuplicate unit.id))
    else (registry.replaceAll [unit], .ok ())
  /-- A unit is always replaced. -/
  replace : ∀ unit, registry.step (.replace unit) = (registry.replaceAll [unit], .ok ())
  /-- A bundle is registered exactly if none of its units is refused. -/
  registerBundle : ∀ units,
    (∃ failure, (registry.step (.registerBundle units)).2 = .error failure) ↔
    ∃ before unit after, units = before ++ unit :: after ∧ registry.Refuses before unit
  /-- If none is, all of them are written. -/
  registerBundle_ok : ∀ units, (registry.step (.registerBundle units)).2 = .ok () →
    (registry.step (.registerBundle units)).1 = registry.replaceAll units
  /-- The units before the first one that is refused are written, and no others. -/
  registerBundle_error : ∀ before unit after, registry.Refuses before unit →
    (∀ earlier other later, before = earlier ++ other :: later → ¬registry.Refuses earlier other) →
      registry.step (.registerBundle (before ++ unit :: after)) =
        (registry.replaceAll before, .error (.unitDuplicate unit.id))
  /-- Entry points that load to units write them. -/
  loadEntryPoints : ∀ entryPoints units,
    entryPoints.map Provided.called = units.map (fun unit => .ok (.unit unit)) →
      registry.step (.loadEntryPoints entryPoints) = (registry.replaceAll units, .ok ())
  /-- A bundle that a text leads to is written. -/
  loadModuleBundle : ∀ sources spec units, BundleAt sources spec units →
    registry.step (.loadModuleBundle sources spec) = (registry.replaceAll units, .ok ())
  /-- A text that leads to no bundle changes nothing. -/
  loadModuleBundle_error : ∀ sources spec, (∀ units, ¬BundleAt sources spec units) →
    ∃ failure, registry.step (.loadModuleBundle sources spec) = (registry, .error failure)

/-! ## The last write -/

variable {registry : Registry} {log : List NamedUnit}

/-- Later writes count before earlier ones. -/
theorem lastWrite?_append (log more : List NamedUnit) (id : String) :
    lastWrite? (log ++ more) id = (lastWrite? more id).or (lastWrite? log id) := by
  unfold lastWrite?
  rw [List.findRev?_eq_find?_reverse, List.findRev?_eq_find?_reverse,
    List.findRev?_eq_find?_reverse, List.reverse_append, List.find?_append]

/-- A single write is the last one of its id. -/
theorem lastWrite?_singleton (unit : NamedUnit) (id : String) :
    lastWrite? [unit] id = if unit.id = id then some unit else none := by
  by_cases h : unit.id = id <;> simp [lastWrite?, List.findRev?, h]

/-- A log holds a unit under the ids that were written, and under no others. -/
theorem isSome_lastWrite? (log : List NamedUnit) (id : String) :
    (lastWrite? log id).isSome ↔ id ∈ log.map NamedUnit.id := by
  unfold lastWrite?
  rw [List.findRev?_eq_find?_reverse, List.find?_isSome, List.mem_map]
  simp

/-- After several writes an id has the last of them, or what it had. -/
theorem unit?_replaceAll (registry : Registry) (units : List NamedUnit) (id : String) :
    (registry.replaceAll units).unit? id = (lastWrite? units id).or (registry.unit? id) := by
  induction units generalizing registry with
  | nil => rfl
  | cons unit rest ih =>
    show ((registry.replace unit).replaceAll rest).unit? id = _
    rw [ih, unit?_replace, ← List.singleton_append, lastWrite?_append, lastWrite?_singleton]
    split
    · rw [Option.or_assoc, Option.some_or]
    · rw [Option.or_none]

/-! ## What steps write -/

/-- A unit is refused after a write exactly if it is refused behind the written unit. -/
theorem refuses_replace (registry : Registry) (written : NamedUnit) (earlier : List NamedUnit)
    (unit : NamedUnit) :
    (registry.replace written).Refuses earlier unit ↔
      registry.Refuses (written :: earlier) unit := by
  unfold Refuses
  rw [unit?_replace, List.map_cons, List.mem_cons]
  by_cases h : written.id = unit.id
  · simp [h]
  · simp [h, Ne.symm h]

/-- The first unit of a bundle is refused exactly if its id is present. -/
theorem refuses_nil (registry : Registry) (unit : NamedUnit) :
    registry.Refuses [] unit ↔ (registry.unit? unit.id).isSome := by
  simp [Refuses]

/-- A unit is registered unless its id is present. -/
theorem register_eq (registry : Registry) (unit : NamedUnit) :
    registry.register unit =
      if (registry.unit? unit.id).isSome then .error (.unitDuplicate unit.id)
      else .ok (registry.replace unit) :=
  rfl

/-- Registering a bundle goes on behind a unit that is not refused. -/
theorem registerAll_cons_of_not_refuses {unit : NamedUnit} (h : ¬registry.Refuses [] unit)
    (rest : List NamedUnit) :
    registry.registerAll (unit :: rest) = (registry.replace unit).registerAll rest := by
  rw [refuses_nil] at h
  rw [registerAll, register_eq, if_neg h]

/-- It ends at a unit that is refused. -/
theorem registerAll_cons_of_refuses {unit : NamedUnit} (h : registry.Refuses [] unit)
    (rest : List NamedUnit) :
    registry.registerAll (unit :: rest) = (registry, .error (.unitDuplicate unit.id)) := by
  rw [refuses_nil] at h
  rw [registerAll, register_eq, if_pos h]

/-- A bundle is registered up to the first unit that is refused. -/
theorem registerAll_of_refuses {before : List NamedUnit} {unit : NamedUnit}
    (after : List NamedUnit) (h : registry.Refuses before unit)
    (hfirst : ∀ earlier other later, before = earlier ++ other :: later →
      ¬registry.Refuses earlier other) :
    registry.registerAll (before ++ unit :: after) =
      (registry.replaceAll before, .error (.unitDuplicate unit.id)) := by
  induction before generalizing registry with
  | nil => exact registerAll_cons_of_refuses h after
  | cons first rest ih =>
    rw [List.cons_append, registerAll_cons_of_not_refuses (hfirst [] first rest rfl)]
    refine ih ((refuses_replace _ _ _ _).2 h) fun earlier other later hsplit hrefuses => ?_
    exact hfirst (first :: earlier) other later (congrArg (first :: ·) hsplit)
      ((refuses_replace _ _ _ _).1 hrefuses)

/-- A bundle fails to be registered exactly if one of its units is refused. -/
theorem registerAll_error_iff (registry : Registry) (units : List NamedUnit) :
    (∃ failure, (registry.registerAll units).2 = .error failure) ↔
      ∃ before unit after, units = before ++ unit :: after ∧ registry.Refuses before unit := by
  induction units generalizing registry with
  | nil => simp [registerAll]
  | cons first rest ih =>
    by_cases hfirst : registry.Refuses [] first
    · rw [registerAll_cons_of_refuses hfirst]
      exact ⟨fun _ => ⟨[], first, rest, rfl, hfirst⟩, fun _ => ⟨_, rfl⟩⟩
    · rw [registerAll_cons_of_not_refuses hfirst, ih]
      constructor
      · rintro ⟨before, unit, after, rfl, hrefuses⟩
        exact ⟨first :: before, unit, after, rfl, (refuses_replace _ _ _ _).1 hrefuses⟩
      · rintro ⟨before, unit, after, hsplit, hrefuses⟩
        -- The refused unit is not the first one, so it stands behind it.
        cases before with
        | nil =>
          obtain ⟨rfl, -⟩ := List.cons.inj hsplit
          exact absurd hrefuses hfirst
        | cons other before =>
          obtain ⟨rfl, hrest⟩ := List.cons.inj hsplit
          exact ⟨before, unit, after, hrest, (refuses_replace _ _ _ _).2 hrefuses⟩

/-- Registering a bundle writes what is admitted of it. -/
theorem registerAll_eq_replaceAll {taken : List String}
    (h : ∀ id, id ∈ taken ↔ (registry.unit? id).isSome) (units : List NamedUnit) :
    (registry.registerAll units).1 = registry.replaceAll (admitted taken units) := by
  induction units generalizing registry taken with
  | nil => rfl
  | cons unit rest ih =>
    rw [admitted]
    by_cases hrefuses : registry.Refuses [] unit
    · rw [registerAll_cons_of_refuses hrefuses, if_pos ((h _).2 ((refuses_nil _ _).1 hrefuses))]
      rfl
    · rw [registerAll_cons_of_not_refuses hrefuses,
        if_neg fun hmem => hrefuses ((refuses_nil _ _).2 ((h _).1 hmem))]
      -- With the unit written, its id is taken beside those that were.
      refine ih fun id => ?_
      rw [unit?_replace, List.mem_cons, h, eq_comm]
      split <;> simp [*]

/-- Entry points write the units that they load to. -/
theorem loadEntryPoints_eq_replaceAll (registry : Registry) (entryPoints : List Provided) :
    (registry.loadEntryPoints entryPoints).1 =
      registry.replaceAll (announcedUnits entryPoints) := by
  induction entryPoints generalizing registry with
  | nil => rfl
  | cons provided rest ih =>
    unfold loadEntryPoints announcedUnits Provided.unit?
    rcases provided.called with _ | _ | unit | _ | _ | _ | _
    case ok.unit => exact ih (registry.replace unit)
    all_goals rfl

/-- Entry points that all load to units write them, and do not fail. -/
theorem loadEntryPoints_of_units {entryPoints : List Provided} {units : List NamedUnit}
    (h : entryPoints.map Provided.called = units.map fun unit => .ok (.unit unit)) :
    registry.loadEntryPoints entryPoints = (registry.replaceAll units, .ok ()) := by
  induction entryPoints generalizing registry units with
  | nil =>
    obtain rfl := List.map_eq_nil_iff.1 h.symm
    rfl
  | cons provided rest ih =>
    cases units with
    | nil => cases h
    | cons unit units =>
      obtain ⟨hunit, hrest⟩ := List.cons.inj h
      rw [loadEntryPoints, hunit]
      exact ih hrest

/-! ## Bundles that a text leads to -/

/-- No member that every module has is a bundle, or answers with one. -/
theorem called_ne_bundle_of_ownMembers {name : String} {provided : Provided}
    (h : ownMembers.get? name = some provided) (units : List NamedUnit) :
    provided.called ≠ .ok (.bundle units) := by
  have hmem := Entries.mem_of_get? h
  simp only [ownMembers, List.mem_append, List.mem_map, Prod.mk.injEq] at hmem
  rcases hmem with (⟨-, -, -, rfl⟩ | ⟨-, -, -, rfl⟩) | ⟨-, -, -, rfl⟩ <;> exact nofun

/-- What is known of a text that is read as a module and a member. -/
theorem parseBundleSpec_ok {spec moduleName member : String}
    (h : parseBundleSpec spec = .ok (moduleName, member)) :
    ∃ first second, spec.toList = first ++ ':' :: second ∧ ':' ∉ first ∧ first ≠ [] ∧
      second ≠ [] ∧ moduleName = String.ofList first ∧ member = String.ofList second := by
  unfold parseBundleSpec at h
  split at h
  · rename_i first second hpartition
    obtain ⟨hsplit, hcolon⟩ := partitionAt_eq_some_iff.1 hpartition
    split at h
    · cases h
    · rename_i hparts
      obtain ⟨rfl, rfl⟩ := Prod.mk.inj (Except.ok.inj h)
      simp only [Bool.or_eq_true, List.isEmpty_iff, not_or] at hparts
      exact ⟨first, second, hsplit, hcolon, hparts.1, hparts.2, rfl, rfl⟩
  · cases h

/-- A module is the last one of its own path. -/
theorem getLast?_modulePath (name : String) : (modulePath name).getLast? = some name := by
  obtain ⟨first, rest, hparts⟩ := List.exists_cons_of_ne_nil (pieces_ne_nil '.' name.toList)
  have hjoin := pieces_join '.' name.toList
  rw [hparts] at hjoin
  rw [modulePath, hparts, List.length_cons, List.range_succ, List.map_append, List.map_singleton,
    List.getLast?_concat, ← List.length_cons, List.take_length, hjoin, String.ofList_toList]

/-- Nothing hinders loading modules one after the other exactly if none of them raises anything and
the last one is there. -/
theorem pathFault?_eq_none_iff {sources : UnitSources} {path : List String}
    (parent? : Option (String × Entries Provided)) :
    pathFault? sources parent? path = none ↔
      (∀ name ∈ path, sources.raising.get? name = none) ∧
        ∀ name ∈ path.getLast?, sources.hasModule name = true := by
  induction path generalizing parent? with
  | nil => simp [pathFault?]
  | cons name inner ih =>
    unfold pathFault?
    rw [List.forall_mem_cons]
    cases hraising : sources.raising.get? name with
    | some raised => simp
    | none =>
      dsimp only
      split
      · rename_i hthere
        rw [ih, and_iff_right rfl]
        refine and_congr_right fun _ => ?_
        cases inner with
        | nil => simpa using hthere
        | cons next rest => rw [List.getLast?_cons_cons]
      · rename_i hthere
        rw [Bool.or_eq_true, List.any_eq_true, not_or] at hthere
        -- The last module would be there, and so would what leads to it.
        refine iff_of_false (by cases parent? <;> exact nofun) fun ⟨_, hlast⟩ => ?_
        obtain ⟨last, hget⟩ := Option.isSome_iff_exists.1
          (List.getLast?_isSome.2 (List.cons_ne_nil name inner))
        rcases List.mem_cons.1 (List.mem_of_getLast? hget) with rfl | hinner
        · exact hthere.1 (hlast last hget)
        · exact hthere.2 ⟨last, hinner, hlast last hget⟩

/-- Loading a module gives its members exactly if it loads to them. -/
theorem loadModule_ok_iff {sources : UnitSources} {name : String} {members : Entries Provided} :
    loadModule sources name = .ok members ↔ LoadsTo sources name members := by
  unfold loadModule LoadsTo
  by_cases hhead : name.toList.head? = some '.'
  · simp [hhead]
  · rw [if_neg (by simpa using hhead), and_iff_right hhead]
    have hraising : (∀ package ∈ modulePath name, sources.raising.get? package = none) →
        sources.raising.has name = false := fun h => by
      have hname := h name (List.mem_of_getLast? (getLast?_modulePath name))
      rw [Bool.eq_false_iff, Ne, Entries.has, hname]
      exact Bool.false_ne_true
    cases hfault : pathFault? sources none (modulePath name) with
    | none =>
      obtain ⟨hnone, hlast⟩ := (pathFault?_eq_none_iff none).1 hfault
      have hthere := hlast name (getLast?_modulePath name)
      rw [UnitSources.hasModule, hraising hnone, Bool.or_false, Entries.has,
        Option.isSome_iff_exists] at hthere
      obtain ⟨found, hfound⟩ := hthere
      simp only [hfound, Option.getD_some, Except.ok.injEq, Option.some.injEq]
      exact (and_iff_right hnone).symm
    | some failure =>
      refine iff_of_false (by intro h; cases h) fun h => ?_
      obtain ⟨hnone, hget⟩ := h
      rw [(pathFault?_eq_none_iff none).2 ⟨hnone, fun last hlast => ?_⟩] at hfault
      · cases hfault
      · obtain rfl := Option.some.inj ((getLast?_modulePath name).symm.trans hlast)
        rw [UnitSources.hasModule, Entries.has, hget]
        rfl

/-- A member that is a bundle is one that the module provides. -/
theorem get?_of_memberOf? {members : Entries Provided} {name : String} {provided : Provided}
    {units : List NamedUnit} (h : memberOf? members name = .ok (some provided))
    (hcalled : provided.called = .ok (.bundle units)) : members.get? name = some provided := by
  unfold memberOf? at h
  split at h
  · rename_i found hfound
    obtain rfl := Option.some.inj (Except.ok.inj h)
    rcases Option.or_eq_some_iff.1 hfound with hmember | ⟨-, hown⟩
    · exact hmember
    · exact absurd hcalled (called_ne_bundle_of_ownMembers hown units)
  · split at h <;> cases h

/-- The units of a bundle can be loaded exactly if the text leads to it. -/
theorem loadBundle_ok_iff {sources : UnitSources} {spec : String} {units : List NamedUnit} :
    loadBundle sources spec = .ok units ↔ BundleAt sources spec units := by
  unfold loadBundle
  constructor
  · intro h
    obtain ⟨⟨moduleName, member⟩, hspec, h⟩ := except_bind_ok_iff.1 h
    obtain ⟨members, hmembers, h⟩ := except_bind_ok_iff.1 h
    obtain ⟨provided?, hprovided, h⟩ := except_bind_ok_iff.1 h
    obtain ⟨first, second, hsplit, hcolon, hfirst, hsecond, rfl, rfl⟩ := parseBundleSpec_ok hspec
    have hloads := loadModule_ok_iff.1 hmembers
    cases provided? with
    | none => cases h
    | some provided =>
      obtain ⟨answer, hcalled, h⟩ := except_bind_ok_iff.1 h
      split at h
      · obtain rfl := Except.ok.inj h
        exact ⟨first, second, members, provided, hsplit, hcolon, hfirst, hsecond, hloads,
          get?_of_memberOf? hprovided hcalled, hcalled⟩
      · cases h
  · rintro ⟨first, second, members, provided, hsplit, hcolon, hfirst, hsecond, hloads, hprovided,
      hcalled⟩
    have hspec : parseBundleSpec spec = .ok (String.ofList first, String.ofList second) := by
      rw [parseBundleSpec, partitionAt_eq_some_iff.2 ⟨hsplit, hcolon⟩]
      simp [hfirst, hsecond]
    have hmember : memberOf? members (String.ofList second) = .ok (some provided) := by
      rw [memberOf?, hprovided, Option.some_or]
    exact except_bind_ok_iff.2 ⟨_, hspec, except_bind_ok_iff.2 ⟨members,
      loadModule_ok_iff.2 hloads, except_bind_ok_iff.2 ⟨some provided, hmember,
        except_bind_ok_iff.2 ⟨_, hcalled, rfl⟩⟩⟩⟩

/-! ## Steps and runs -/

/-- Registering a unit is registering a bundle of it. -/
theorem step_register (registry : Registry) (unit : NamedUnit) :
    registry.step (.register unit) = registry.registerAll [unit] := by
  show registry.orUnchanged (registry.register unit) = _
  rw [registerAll]
  cases registry.register unit <;> rfl

/-- A step writes the units that its kind writes when the ids of the registry are taken. -/
theorem step_eq_replaceAll {taken : List String}
    (h : ∀ id, id ∈ taken ↔ (registry.unit? id).isSome) (next : Step) :
    (registry.step next).1 = registry.replaceAll (next.writes taken) := by
  cases next with
  | register unit =>
    rw [step_register]
    exact registerAll_eq_replaceAll h [unit]
  | replace unit => rfl
  | registerBundle units => exact registerAll_eq_replaceAll h units
  | loadEntryPoints entryPoints => exact loadEntryPoints_eq_replaceAll registry entryPoints
  | loadModuleBundle sources spec =>
    show (registry.orUnchanged ((loadBundle sources spec).map registry.replaceAll)).1 =
      registry.replaceAll ((loadBundle sources spec).toOption.getD [])
    cases loadBundle sources spec <;> rfl

/-- A step does to a registry what it does to the log that the registry answers from. -/
theorem unit?_step (h : ∀ id, registry.unit? id = lastWrite? log id) (next : Step) (id : String) :
    (registry.step next).1.unit? id =
      lastWrite? (log ++ next.writes (log.map NamedUnit.id)) id := by
  have htaken : ∀ id, id ∈ log.map NamedUnit.id ↔ (registry.unit? id).isSome := by
    intro id
    rw [h, isSome_lastWrite?]
  rw [step_eq_replaceAll htaken, unit?_replaceAll, lastWrite?_append, h]

/-- So does a run. -/
theorem unit?_run (h : ∀ id, registry.unit? id = lastWrite? log id) (steps : List Step)
    (id : String) : (registry.run steps).unit? id = lastWrite? (extendLog log steps) id := by
  induction steps generalizing registry log with
  | nil => exact h id
  | cons next rest ih => exact ih (unit?_step h next)

/-! ## What is stored -/

/-- A registry that stores no id twice, and every unit under its own id. -/
structure Stores (registry : Registry) : Prop where
  /-- No id comes twice. -/
  nodup : registry.units.keys.Nodup
  /-- Every unit stands under its own id. -/
  own : ∀ id unit, (id, unit) ∈ registry.units → unit.id = id

/-- The empty registry stores nothing. -/
theorem stores_empty : ({} : Registry).Stores where
  nodup := List.nodup_nil
  own _ _ h := absurd h List.not_mem_nil

/-- A write stores a unit under its own id, in the place of the one that was there. -/
theorem Stores.replace (h : registry.Stores) (unit : NamedUnit) :
    (registry.replace unit).Stores where
  nodup := Entries.nodup_insert h.nodup _ _
  own id other hmem := by
    rcases Entries.mem_insert hmem with hwritten | hold
    · obtain ⟨rfl, rfl⟩ := Prod.mk.inj hwritten
      rfl
    · exact h.own id other hold

/-- So do several writes. -/
theorem Stores.replaceAll (h : registry.Stores) (units : List NamedUnit) :
    (registry.replaceAll units).Stores := by
  induction units generalizing registry with
  | nil => exact h
  | cons unit rest ih => exact ih (h.replace unit)

/-- What a run has written is stored so. -/
theorem Stores.run (h : registry.Stores) (steps : List Step) : (registry.run steps).Stores := by
  obtain ⟨written, hwritten⟩ := run_writes registry steps
  rw [hwritten]
  exact h.replaceAll written

/-- The stored units rise strictly by the code points of their ids once they are listed. -/
theorem Stores.list_sorted (h : registry.Stores) :
    registry.list.Pairwise fun a b => a.id < b.id := by
  have hperm := Entries.sorted_perm registry.units
  have hdistinct : (Entries.sorted registry.units).Pairwise fun a b => a.1 ≠ b.1 :=
    List.pairwise_map.1 ((hperm.map Prod.fst).nodup_iff.2 h.nodup)
  refine List.pairwise_map.2 (((Entries.pairwise_sorted _).and hdistinct).imp_of_mem ?_)
  rintro ⟨a, first⟩ ⟨b, second⟩ ha hb ⟨hle, hne⟩
  rw [h.own a first (hperm.mem_iff.1 ha), h.own b second (hperm.mem_iff.1 hb)]
  exact Std.lt_of_le_of_ne hle hne

/-- The listing lists what is stored. -/
theorem Stores.mem_list (h : registry.Stores) (unit : NamedUnit) :
    unit ∈ registry.list ↔ registry.unit? unit.id = some unit := by
  have hperm := Entries.sorted_perm registry.units
  constructor
  · intro hmem
    obtain ⟨⟨id, other⟩, hentry, rfl⟩ := List.mem_map.1 hmem
    have hstored := hperm.mem_iff.1 hentry
    rw [h.own id _ hstored]
    exact Entries.get?_of_mem h.nodup hstored
  · intro hunit
    exact List.mem_map.2 ⟨_, hperm.mem_iff.2 (Entries.mem_of_get? hunit), rfl⟩

/-- An id cannot be required exactly if there is no unit under it. -/
theorem require_error_iff (registry : Registry) (id : String) :
    (∃ failure, registry.require id = .error failure) ↔ registry.unit? id = none := by
  unfold require
  cases registry.unit? id <;> simp

/-- What each kind of step does to any registry. -/
theorem operates (registry : Registry) : registry.Operates where
  writes := unit?_replaceAll registry
  stays steps id h := by
    obtain ⟨written, hwritten⟩ := run_writes registry steps
    rw [hwritten]
    exact isSome_replaceAll h written
  register unit := by
    show registry.orUnchanged (registry.register unit) = _
    rw [register_eq]
    split <;> rfl
  replace unit := rfl
  registerBundle := registerAll_error_iff registry
  registerBundle_ok units h := registerAll_ok h
  registerBundle_error before unit after := registerAll_of_refuses after
  loadEntryPoints entryPoints units := loadEntryPoints_of_units
  loadModuleBundle sources spec units h := by
    show registry.orUnchanged ((loadBundle sources spec).map registry.replaceAll) = _
    rw [loadBundle_ok_iff.2 h]
    rfl
  loadModuleBundle_error sources spec h := by
    show ∃ failure, registry.orUnchanged ((loadBundle sources spec).map registry.replaceAll) = _
    cases hload : loadBundle sources spec with
    | ok units => exact absurd (loadBundle_ok_iff.1 hload) (h units)
    | error failure => exact ⟨failure, rfl⟩

/-- A registry that a run has reached from the empty one answers from the log of the run: the last
write of an id counts. Each further step does what its kind does, whether it succeeds or fails. -/
theorem run_holdsLast (steps : List Step) :
    (({} : Registry).run steps).HoldsLast (Registry.log steps) ∧
      (({} : Registry).run steps).Operates := by
  have hstores := stores_empty.run steps
  have hempty : ∀ id, ({} : Registry).unit? id = lastWrite? [] id := fun _ => rfl
  exact ⟨
    { unit? := unit?_run hempty steps
      own := hstores.own
      list_sorted := hstores.list_sorted
      mem_list := hstores.mem_list
      require := require_error_iff _ },
    operates _⟩

end Registry

end TransformPreset
