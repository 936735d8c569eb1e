import TransformPreset.Proofs.Entries
import TransformPreset.Value.Basic

/-!
# Values that are data

A value is data if no target specification is anywhere in it. What is looked up in data is data.
-/

namespace TransformPreset

/-- Values with no target specification in them. -/
inductive Value.IsData : Value → Prop
  | null : IsData .null
  | bool (b : Bool) : IsData (.bool b)
  | int (n : Int) : IsData (.int n)
  | float (x : Binary64) : IsData (.float x)
  | text (s : String) : IsData (.text s)
  | list {items : List Value} (h : ∀ item ∈ items, IsData item) : IsData (.list items)
  | map {entries : List (String × Value)} (h : ∀ entry ∈ entries, IsData entry.2) :
    IsData (.map entries)
  | other (form : String) : IsData (.other form)

namespace Value

namespace IsData

variable {value : Value}

/-- What is looked up in a map that is data is data. -/
theorem of_get? {entries : Entries Value} (h : (Value.map entries).IsData) {key : String}
    (hget : entries.get? key = some value) : value.IsData := by
  cases h with
  | map hentries => exact hentries _ (Entries.mem_of_get? hget)

end IsData

end Value

end TransformPreset
