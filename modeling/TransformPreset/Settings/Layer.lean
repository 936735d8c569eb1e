import TransformPreset.Failure

/-!
# Layers of options

Options come in layers: those of a file, and over them those of the command line. An option of the
upper layer replaces the one below, except that two tables of targets are laid over each other
environment by environment. `layerValues` takes layers of which nothing is known yet.
-/

namespace TransformPreset

/-- The option whose tables are laid over each other. -/
def targetsKey : String := "targets"

/-- The value of an option that is `below` in the lower layer and `above` in the upper one. -/
def layeredValue (key : String) (below? : Option Value) (above : Value) : Value :=
  if key = targetsKey then
    match below?, above with
    -- Only two tables can be laid over each other.
    | some (.map lower), .map upper => .map (Entries.overlay lower upper)
    | _, _ => above
  else above

/-- The lower layer with the upper one over it. -/
def layerOptions (lower upper : Entries Value) : Entries Value :=
  upper.foldl
    (fun merged option =>
      merged.insert option.1 (layeredValue option.1 (merged.get? option.1) option.2))
    lower

@[simp] theorem layerOptions_nil (lower : Entries Value) : layerOptions lower [] = lower := rfl

theorem layerOptions_cons (lower : Entries Value) (key : String) (value : Value)
    (upper : Entries Value) :
    layerOptions lower ((key, value) :: upper) =
      layerOptions (lower.insert key (layeredValue key (lower.get? key) value)) upper := rfl

/-! ## Layers of any form -/

/-- The parts of a value that has parts in order: the items of a list, the keys of a map, or the
characters of a text. -/
def partsOf? : Value → Option (List Value)
  | .list items => some items
  | .map entries => some (entries.map fun entry => .text entry.1)
  | .text s => some (s.toList.map fun c => .text (String.ofList [c]))
  | _ => none

/-- The entry that a value of two parts writes, if it is the one with the given index. -/
def readEntryPair (index : Nat) (value : Value) : Except Failure (String × Value) :=
  match partsOf? value with
  | none => .error .notPairs
  | some [.text key, entry] => .ok (key, entry)
  | some [_, _] => .error .notPairs
  | some parts => .error (.pairOfOtherLength index parts.length)

/-- The entries that values of two parts write, the first of them with the given index. -/
def readEntryPairs (index : Nat) : List Value → Except Failure (Entries Value)
  | [] => .ok []
  | value :: rest => do
    return (← readEntryPair index value) :: (← readEntryPairs (index + 1) rest)

/-- The options of a lower layer of any form: a map, or parts that write its entries. -/
def readLowerLayer : Value → Except Failure (Entries Value)
  | .map entries => .ok entries
  | value =>
    match partsOf? value with
    | none => .error .notPairs
    | some parts => (readEntryPairs 0 parts).map Entries.ofWrites

/-- A lower layer of any form with an upper one over it, which must be a map. -/
def layerValues (lower upper : Value) : Except Failure (Entries Value) := do
  let options ← readLowerLayer lower
  match upper with
  | .map entries => return layerOptions options entries
  | _ => .error .notTable

end TransformPreset
