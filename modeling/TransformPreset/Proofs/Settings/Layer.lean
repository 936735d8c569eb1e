import TransformPreset.Proofs.Entries
import TransformPreset.Settings.Layer

/-!
# Laws of layers

Layers of options are laid over each other two at a time, and which two come first must not matter:
it does not if the targets of the middle layer, should it have any, are a table
(`layerOptions_lawful`). Laying one layer over another is laying a map over another after its values
were layered (`layerOptions_eq_overlay`). So the keys of the result are those of maps, and each of
its values is told by the two values under its key (`layered?`). Associativity and repetition are
shown of two tables of targets, then of `layered?`, and then of layers.
-/

namespace TransformPreset

/-! ## Layers -/

/-- The table of targets among options, which is empty if they have none. -/
def targetsIn (options : Entries Value) : Entries Value :=
  match options.get? targetsKey with
  | some (.map targets) => targets
  | _ => []

/-- Options whose `targets`, if they have any, are a table that names nothing twice. -/
structure HaveTargetTable (options : Entries Value) : Prop where
  /-- Targets are a table. -/
  table : ∀ value, options.get? targetsKey = some value → value = .map (targetsIn options)
  /-- The table names nothing twice. -/
  nodup : (targetsIn options).keys.Nodup

/-- Options that can be a layer, whatever the shape of their targets: none comes twice, and a table
of targets names nothing twice. -/
structure IsLayer (options : Entries Value) : Prop where
  /-- No option comes twice. -/
  nodup : options.keys.Nodup
  /-- A table of targets names nothing twice. -/
  targets : ∀ targets, options.get? targetsKey = some (.map targets) →
    (Entries.keys targets).Nodup

/-- What is asked of layers that are laid over each other. -/
structure LayersLawfully (lower middle upper : Entries Value) : Prop where
  /-- A layer over a layer is a layer again. -/
  isLayer : IsLayer (layerOptions lower upper)
  /-- Its targets are a table if those of both layers are. -/
  haveTable : HaveTargetTable lower → HaveTargetTable upper →
    HaveTargetTable (layerOptions lower upper)
  /-- With a table of targets in the middle, any two layers may come first. -/
  assoc : HaveTargetTable middle →
    layerOptions (layerOptions lower middle) upper = layerOptions lower (layerOptions middle upper)
  /-- A layer over no options is itself. -/
  nil_left : layerOptions [] lower = lower
  /-- A layer with no options over it is itself. -/
  nil_right : layerOptions lower [] = lower
  /-- A layer that is laid over another once more changes nothing. -/
  again : layerOptions (layerOptions lower upper) upper = layerOptions lower upper
  /-- An option other than targets has its upper value if there is one, and else the lower one. -/
  option : ∀ key, key ≠ targetsKey →
    (layerOptions lower upper).get? key = (upper.get? key).or (lower.get? key)
  /-- So has an environment in two tables of targets. -/
  environment : HaveTargetTable lower → HaveTargetTable upper → ∀ environment,
    (targetsIn (layerOptions lower upper)).get? environment =
      ((targetsIn upper).get? environment).or ((targetsIn lower).get? environment)

variable {key : String} {above : Value} {below? middle? above? : Option Value}
  {options lower middle upper : Entries Value}

/-! ## Values of one option -/

/-- The value of an option in a layer with another one over it. -/
def layered? (key : String) (below? above? : Option Value) : Option Value :=
  match above? with
  | none => below?
  | some above => some (layeredValue key below? above)

/-- Whether a value that is a table names nothing twice. -/
def DistinctTable (value? : Option Value) : Prop :=
  ∀ targets, value? = some (.map targets) → (Entries.keys targets).Nodup

/-- Whether a value, if there is one, is a table that names nothing twice. -/
def IsTable (value? : Option Value) : Prop :=
  ∀ value, value? = some value → ∃ targets, value = .map targets ∧ (Entries.keys targets).Nodup

/-- Two tables of targets are laid over each other. -/
theorem layeredValue_tables (below above : Entries Value) :
    layeredValue targetsKey (some (.map below)) (.map above) = .map (below.overlay above) :=
  if_pos rfl

/-- Upper targets that are no table replace the lower ones. -/
theorem layeredValue_of_above (h : ¬∃ targets, above = .map targets) (key : String)
    (below? : Option Value) : layeredValue key below? above = above := by
  unfold layeredValue
  split
  · split
    · exact absurd ⟨_, rfl⟩ h
    · rfl
  · rfl

/-- Lower targets that are no table are replaced by the upper ones. -/
theorem layeredValue_of_below (h : ¬∃ targets, below? = some (.map targets)) (key : String)
    (above : Value) : layeredValue key below? above = above := by
  unfold layeredValue
  split
  · split
    · exact absurd ⟨_, rfl⟩ h
    · rfl
  · rfl

/-- Without a lower value, an option has its upper one. -/
theorem layered?_none (key : String) (above? : Option Value) :
    layered? key none above? = above? := by
  cases above? with
  | none => rfl
  | some above =>
    have hnone : ¬∃ targets, none = some (Value.map targets) := fun ⟨_, h⟩ => by cases h
    exact congrArg some (layeredValue_of_below hnone key above)

/-- An option other than targets has its upper value if there is one, and else the lower one. -/
theorem layered?_of_ne (h : key ≠ targetsKey) (below? above? : Option Value) :
    layered? key below? above? = above?.or below? := by
  cases above? with
  | none => rfl
  | some above => exact congrArg some (if_neg h)

/-- Targets of three layers may be layered from either side if those in the middle are a table. -/
theorem layered?_assoc (hbelow : DistinctTable below?) (hmiddle : IsTable middle?)
    (habove : DistinctTable above?) :
    layered? targetsKey (layered? targetsKey below? middle?) above? =
      layered? targetsKey below? (layered? targetsKey middle? above?) := by
  cases above? with
  | none => rfl
  | some above =>
    cases middle? with
    | none => rw [layered?_none, layered?]
    | some middle =>
      obtain ⟨middles, rfl, hmiddles⟩ := hmiddle middle rfl
      by_cases hmap : ∃ aboves, above = .map aboves
      · obtain ⟨aboves, rfl⟩ := hmap
        by_cases hlower : ∃ belows, below? = some (.map belows)
        · obtain ⟨belows, rfl⟩ := hlower
          simp only [layered?, layeredValue_tables]
          rw [Entries.overlay_assoc (hbelow _ rfl) hmiddles (habove _ rfl)]
        · simp only [layered?, layeredValue_tables, layeredValue_of_below hlower]
      · simp only [layered?, layeredValue_of_above hmap]

/-- Targets that are layered over others once more change nothing. -/
theorem layered?_again (hbelow : DistinctTable below?) (habove : DistinctTable above?) :
    layered? targetsKey (layered? targetsKey below? above?) above? =
      layered? targetsKey below? above? := by
  cases above? with
  | none => rfl
  | some above =>
    by_cases hmap : ∃ aboves, above = .map aboves
    · obtain ⟨aboves, rfl⟩ := hmap
      have haboves := habove aboves rfl
      by_cases hlower : ∃ belows, below? = some (.map belows)
      · obtain ⟨belows, rfl⟩ := hlower
        simp only [layered?, layeredValue_tables]
        rw [Entries.overlay_again (hbelow _ rfl) haboves]
      · -- The lower targets are lost the first time, so the upper ones are laid over themselves.
        have hempty : (Entries.keys ([] : Entries Value)).Nodup := List.nodup_nil
        have hself : Entries.overlay aboves aboves = aboves := by
          have hagain := Entries.overlay_again hempty haboves
          rwa [Entries.nil_overlay haboves] at hagain
        simp only [layered?, layeredValue_of_below hlower, layeredValue_tables, hself]
    · simp only [layered?, layeredValue_of_above hmap]

/-- Layered tables name nothing twice if neither of them does. -/
theorem distinctTable_layered? (hbelow : DistinctTable below?) (habove : DistinctTable above?) :
    DistinctTable (layered? targetsKey below? above?) := by
  cases above? with
  | none => exact hbelow
  | some above =>
    by_cases hmap : ∃ aboves, above = .map aboves
    · obtain ⟨aboves, rfl⟩ := hmap
      by_cases hlower : ∃ belows, below? = some (.map belows)
      · obtain ⟨belows, rfl⟩ := hlower
        rw [layered?, layeredValue_tables]
        rintro targets ⟨⟩
        exact Entries.nodup_overlay (hbelow _ rfl) aboves
      · rwa [layered?, layeredValue_of_below hlower]
    · rwa [layered?, layeredValue_of_above hmap]

/-- Layered tables are a table. -/
theorem isTable_layered? (hbelow : IsTable below?) (habove : IsTable above?) :
    IsTable (layered? targetsKey below? above?) := by
  cases above? with
  | none => exact hbelow
  | some above =>
    obtain ⟨aboves, rfl, -⟩ := habove above rfl
    cases below? with
    | none => rwa [layered?_none]
    | some below =>
      obtain ⟨belows, rfl, hbelows⟩ := hbelow below rfl
      rw [layered?, layeredValue_tables]
      rintro value ⟨⟩
      exact ⟨_, rfl, Entries.nodup_overlay hbelows aboves⟩

/-! ## Layers as maps -/

/-- The options of an upper layer with their values layered over those of a lower one. -/
def valuesOver (lower upper : Entries Value) : Entries Value :=
  upper.map fun (key, value) => (key, layeredValue key (lower.get? key) value)

/-- Layering the values leaves the keys. -/
theorem keys_valuesOver (lower upper : Entries Value) :
    (valuesOver lower upper).keys = upper.keys :=
  Entries.keys_mapKeyed (fun key value => layeredValue key (lower.get? key) value) upper

/-- Layering the values layers what is looked up. -/
theorem get?_valuesOver (lower upper : Entries Value) (key : String) :
    (valuesOver lower upper).get? key =
      (upper.get? key).map (layeredValue key (lower.get? key)) :=
  Entries.get?_mapKeyed (fun key value => layeredValue key (lower.get? key) value) upper key

/-- A layer over another one is a map over another one, with its values layered before. -/
theorem layerOptions_eq_overlay (lower : Entries Value) (h : upper.keys.Nodup) :
    layerOptions lower upper = lower.overlay (valuesOver lower upper) := by
  induction upper generalizing lower with
  | nil => rfl
  | cons option rest ih =>
    obtain ⟨key, value⟩ := option
    obtain ⟨hkey, hrest⟩ := List.nodup_cons.1 h
    -- The later options have other keys, whose lower values the first one leaves alone.
    have hlater : valuesOver (lower.insert key (layeredValue key (lower.get? key) value)) rest =
        valuesOver lower rest := by
      refine List.map_congr_left fun option hoption => ?_
      obtain ⟨name, later⟩ := option
      have hname : name ∈ Entries.keys rest := Entries.mem_keys_of_mem hoption
      have hne : key ≠ name := fun heq => hkey (heq ▸ hname)
      dsimp only
      rw [Entries.get?_insert, if_neg hne]
    rw [layerOptions_cons, ih _ hrest, hlater]
    rfl

/-- The keys of layers: those of the lower one, and the new ones of the upper one behind them. -/
theorem keys_layerOptions (lower : Entries Value) (h : upper.keys.Nodup) :
    (layerOptions lower upper).keys =
      lower.keys ++ upper.keys.filter fun key => key ∉ lower.keys := by
  have hvalues : (valuesOver lower upper).keys.Nodup := (keys_valuesOver lower upper).symm ▸ h
  rw [layerOptions_eq_overlay lower h, Entries.keys_overlay _ hvalues, keys_valuesOver]

/-- The value of an option in layers is that of its two values. -/
theorem get?_layerOptions (lower : Entries Value) (h : upper.keys.Nodup) (key : String) :
    (layerOptions lower upper).get? key = layered? key (lower.get? key) (upper.get? key) := by
  have hvalues : (valuesOver lower upper).keys.Nodup := (keys_valuesOver lower upper).symm ▸ h
  rw [layerOptions_eq_overlay lower h, Entries.get?_overlay _ hvalues, get?_valuesOver]
  cases upper.get? key with
  | none => rw [Option.map_none, Option.none_or, layered?]
  | some value => rw [Option.map_some, Option.some_or, layered?]

/-- No option comes twice in layers. -/
theorem nodup_layerOptions (hlower : lower.keys.Nodup) (hupper : upper.keys.Nodup) :
    (layerOptions lower upper).keys.Nodup := by
  rw [layerOptions_eq_overlay lower hupper]
  exact Entries.nodup_overlay hlower _

/-! ## Tables of targets in layers -/

/-- A table of targets is what there is of targets. -/
theorem targetsIn_of_map {targets : Entries Value}
    (h : options.get? targetsKey = some (.map targets)) : targetsIn options = targets := by
  rw [targetsIn, h]

/-- Without targets, there is no environment in them. -/
theorem targetsIn_of_none (h : options.get? targetsKey = none) : targetsIn options = [] := by
  rw [targetsIn, h]

/-- Options have a table of targets exactly if their targets, if there are any, are one. -/
theorem haveTargetTable_iff : HaveTargetTable options ↔ IsTable (options.get? targetsKey) := by
  constructor
  · rintro h value hvalue
    exact ⟨_, h.table value hvalue, h.nodup⟩
  · intro h
    cases hget : options.get? targetsKey with
    | none =>
      refine ⟨fun value hvalue => ?_, ?_⟩
      · cases hget.symm.trans hvalue
      · rw [targetsIn_of_none hget]
        exact List.nodup_nil
    | some value =>
      obtain ⟨targets, rfl, htargets⟩ := h value hget
      have htable := targetsIn_of_map hget
      exact ⟨fun other hother => by rw [htable, Option.some.inj (hget.symm.trans hother)],
        htable ▸ htargets⟩

/-- Tables of targets in layers are laid over each other. -/
theorem targetsIn_layerOptions (hupper : upper.keys.Nodup) (hbelow : HaveTargetTable lower)
    (habove : HaveTargetTable upper) :
    targetsIn (layerOptions lower upper) = (targetsIn lower).overlay (targetsIn upper) := by
  have hlayered := get?_layerOptions lower hupper targetsKey
  cases hup : upper.get? targetsKey with
  | none =>
    rw [hup, layered?] at hlayered
    rw [targetsIn_of_none hup, Entries.overlay_nil, targetsIn, hlayered, targetsIn]
  | some above =>
    obtain rfl := habove.table above hup
    cases hlow : lower.get? targetsKey with
    | none =>
      rw [hup, hlow, layered?_none] at hlayered
      rw [targetsIn_of_none hlow, Entries.nil_overlay habove.nodup, targetsIn_of_map hlayered]
    | some below =>
      obtain rfl := hbelow.table below hlow
      rw [hup, hlow, layered?, layeredValue_tables] at hlayered
      exact targetsIn_of_map hlayered

/-! ## Laws -/

/-- Any two of three layers may come first if the targets in the middle are a table. -/
theorem layerOptions_assoc (hlower : IsLayer lower) (hmiddle : middle.keys.Nodup)
    (hupper : IsLayer upper) (htable : HaveTargetTable middle) :
    layerOptions (layerOptions lower middle) upper =
      layerOptions lower (layerOptions middle upper) := by
  have habove := nodup_layerOptions hmiddle hupper.nodup
  have hall := nodup_layerOptions (nodup_layerOptions hlower.nodup hmiddle) hupper.nodup
  refine Entries.eq_of_get? ?keys hall fun key => ?get
  case keys =>
    rw [keys_layerOptions _ hupper.nodup, keys_layerOptions _ hmiddle, keys_layerOptions _ habove,
      keys_layerOptions _ hupper.nodup]
    exact Entries.newKeys_assoc lower.keys middle.keys upper.keys
  case get =>
    rw [get?_layerOptions _ hupper.nodup, get?_layerOptions _ hmiddle, get?_layerOptions _ habove,
      get?_layerOptions _ hupper.nodup]
    by_cases hkey : key = targetsKey
    · subst hkey
      exact layered?_assoc hlower.targets (haveTargetTable_iff.1 htable) hupper.targets
    · simp only [layered?_of_ne hkey, Option.or_assoc]

/-- A layer over no options is itself. -/
theorem nil_layerOptions (h : upper.keys.Nodup) : layerOptions [] upper = upper := by
  refine Entries.eq_of_get? ?keys (nodup_layerOptions List.nodup_nil h) fun key => ?get
  case keys =>
    have hnone : Entries.keys ([] : Entries Value) = [] := rfl
    simp [keys_layerOptions _ h, hnone]
  case get => rw [get?_layerOptions _ h, Entries.get?_nil, layered?_none]

/-- A layer that is laid over another once more changes nothing. -/
theorem layerOptions_again (hlower : IsLayer lower) (hupper : IsLayer upper) :
    layerOptions (layerOptions lower upper) upper = layerOptions lower upper := by
  have honce := nodup_layerOptions hlower.nodup hupper.nodup
  refine Entries.eq_of_get? ?keys (nodup_layerOptions honce hupper.nodup) fun key => ?get
  case keys =>
    rw [keys_layerOptions _ hupper.nodup, keys_layerOptions _ hupper.nodup, Entries.newKeys_again,
      List.append_nil]
  case get =>
    rw [get?_layerOptions _ hupper.nodup, get?_layerOptions _ hupper.nodup]
    by_cases hkey : key = targetsKey
    · subst hkey
      exact layered?_again hlower.targets hupper.targets
    · simp only [layered?_of_ne hkey, ← Option.or_assoc, Option.or_self]

/-- Layers are laid over each other as a monoid, if their targets are tables, and the upper values
count. -/
theorem layerOptions_lawful (hlower : IsLayer lower) (hmiddle : IsLayer middle)
    (hupper : IsLayer upper) : LayersLawfully lower middle upper where
  isLayer :=
    { nodup := nodup_layerOptions hlower.nodup hupper.nodup
      targets := by
        rw [get?_layerOptions _ hupper.nodup]
        exact distinctTable_layered? hlower.targets hupper.targets }
  haveTable hbelow habove := by
    rw [haveTargetTable_iff, get?_layerOptions _ hupper.nodup]
    exact isTable_layered? (haveTargetTable_iff.1 hbelow) (haveTargetTable_iff.1 habove)
  assoc htable := layerOptions_assoc hlower hmiddle.nodup hupper htable
  nil_left := nil_layerOptions hlower.nodup
  nil_right := layerOptions_nil lower
  again := layerOptions_again hlower hupper
  option key hkey := by rw [get?_layerOptions _ hupper.nodup, layered?_of_ne hkey]
  environment hbelow habove environment := by
    rw [targetsIn_layerOptions hupper.nodup hbelow habove, Entries.get?_overlay _ habove.nodup]

/-- A layer of a host, whose targets are no table. -/
def hostLayer : Entries Value :=
  [("targets", .text "old"), ("loose", .bool false)]

/-- A layer of a file. -/
def fileLayer : Entries Value :=
  [("loose", .bool true), ("targets", .map [("chrome", .int 40), ("firefox", .int 50)])]

/-- A layer of a command line, which names one environment of the file again. -/
def commandLayer : Entries Value :=
  [("targets", .map [("edge", .int 13), ("chrome", .int 60)]), ("debug", .bool true)]

/-- The targets of the host are lost to those of the file, over which those of the command line are
laid, whichever two layers come first. -/
theorem commandLayer_lawful :
    IsLayer hostLayer ∧ IsLayer fileLayer ∧ IsLayer commandLayer ∧
      LayersLawfully hostLayer fileLayer commandLayer ∧
      layerOptions hostLayer (layerOptions fileLayer commandLayer) =
        [("targets", .map [("chrome", .int 60), ("firefox", .int 50), ("edge", .int 13)]),
          ("loose", .bool true), ("debug", .bool true)] := by
  have hhost : IsLayer hostLayer := ⟨by decide, by rintro targets ⟨⟩⟩
  have hfile : IsLayer fileLayer := ⟨by decide, by rintro targets ⟨⟩; decide⟩
  have hcommand : IsLayer commandLayer := ⟨by decide, by rintro targets ⟨⟩; decide⟩
  have htable : HaveTargetTable fileLayer := ⟨by rintro value ⟨⟩; rfl, by decide⟩
  have hlawful := layerOptions_lawful hhost hfile hcommand
  refine ⟨hhost, hfile, hcommand, hlawful, ?_⟩
  rw [← hlawful.assoc htable]
  rfl

end TransformPreset
