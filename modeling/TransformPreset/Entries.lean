/-!
# Maps in insertion order

A map from names is its list of entries, in the order in which the names came. `get?` is its view as
a function and `keys` its order: `get?_insert` and `keys_insert` say what one write does to them,
and `get?_overlay` what laying one map over another does. A map holds no key twice
(`(entries.keys).Nodup`), which every operation here keeps.
-/

namespace TransformPreset

/-- A map from names to values, in insertion order. -/
abbrev Entries (α : Type) := List (String × α)

namespace Entries

variable {α : Type}

/-- The value of a key. -/
def get? : Entries α → String → Option α
  | [], _ => none
  | (name, value) :: rest, key => if name = key then some value else get? rest key

/-- The keys in order. -/
def keys (entries : Entries α) : List String :=
  entries.map Prod.fst

/-- Whether the map has the key. -/
def has (entries : Entries α) (key : String) : Bool :=
  (entries.get? key).isSome

/-- Gives a key a value: in its place if the key is there, else at the end. -/
def insert : Entries α → String → α → Entries α
  | [], key, value => [(key, value)]
  | (name, old) :: rest, key, value =>
    if name = key then (name, value) :: rest else (name, old) :: insert rest key value

/-- Lays the entries of `top` over the map, one write after the other. -/
def overlay (base top : Entries α) : Entries α :=
  top.foldl (fun entries entry => entries.insert entry.1 entry.2) base

/-- The map of a list of writes, of which the last to a key counts. -/
def ofWrites (writes : List (String × α)) : Entries α :=
  overlay [] writes

/-- The entries by the code points of their keys. -/
def sorted (entries : Entries α) : Entries α :=
  entries.mergeSort fun a b => !decide (b.1 < a.1)

@[simp] theorem get?_nil (key : String) : get? ([] : Entries α) key = none := rfl

@[simp] theorem get?_cons (name key : String) (value : α) (rest : Entries α) :
    get? ((name, value) :: rest) key = if name = key then some value else get? rest key := rfl

theorem get?_insert (entries : Entries α) (name key : String) (value : α) :
    (entries.insert name value).get? key = if name = key then some value else entries.get? key := by
  induction entries with
  | nil => simp [insert]
  | cons entry rest ih =>
    obtain ⟨n, v⟩ := entry
    simp only [insert]
    split
    · rename_i h
      subst h
      by_cases hk : n = key <;> simp [hk]
    · rename_i h
      simp only [get?_cons, ih]
      by_cases hn : n = key
      · have : name ≠ key := fun e => h (hn.trans e.symm)
        simp [hn, this]
      · simp [hn]

theorem get?_eq_none_iff (entries : Entries α) (key : String) :
    entries.get? key = none ↔ key ∉ entries.keys := by
  induction entries with
  | nil => simp [keys]
  | cons entry rest ih =>
    obtain ⟨n, v⟩ := entry
    by_cases hn : n = key
    · simp [keys, hn]
    · have : key ≠ n := fun e => hn e.symm
      simp only [get?_cons, hn, if_false, ih, keys, List.map_cons, List.mem_cons, this, false_or]

theorem has_iff (entries : Entries α) (key : String) :
    entries.has key = true ↔ key ∈ entries.keys := by
  rw [has, Option.isSome_iff_ne_none, Ne, get?_eq_none_iff, Decidable.not_not]

/-- A write to a present key keeps the order; a write to a new one appends it. -/
theorem keys_insert (entries : Entries α) (key : String) (value : α) :
    (entries.insert key value).keys =
      if key ∈ entries.keys then entries.keys else entries.keys ++ [key] := by
  induction entries with
  | nil => simp [insert, keys]
  | cons entry rest ih =>
    obtain ⟨n, v⟩ := entry
    simp only [insert]
    split
    · rename_i h
      simp [keys, h]
    · rename_i h
      have hne : key ≠ n := fun e => h e.symm
      simp only [keys, List.map_cons, List.mem_cons, hne, false_or] at ih ⊢
      rw [ih]
      by_cases hk : key ∈ List.map Prod.fst rest <;> simp only [hk, if_true, if_false,
        List.cons_append]

theorem nodup_insert {entries : Entries α} (h : entries.keys.Nodup) (key : String) (value : α) :
    (entries.insert key value).keys.Nodup := by
  rw [keys_insert]
  split
  · exact h
  · rename_i hk
    rw [List.nodup_append]
    refine ⟨h, by simp, ?_⟩
    intro a ha b hb hab
    rw [List.mem_singleton] at hb
    exact hk (hb ▸ hab ▸ ha)

theorem nodup_overlay {base : Entries α} (h : base.keys.Nodup) (top : Entries α) :
    (base.overlay top).keys.Nodup := by
  induction top generalizing base with
  | nil => exact h
  | cons entry rest ih => exact ih (nodup_insert h _ _)

theorem overlay_nil (base : Entries α) : base.overlay [] = base := rfl

theorem overlay_cons (base : Entries α) (entry : String × α) (top : Entries α) :
    base.overlay (entry :: top) = (base.insert entry.1 entry.2).overlay top := rfl

/-- Where the upper map has no key twice, a key has its value there if it is there. -/
theorem get?_overlay (base : Entries α) {top : Entries α} (h : top.keys.Nodup) (key : String) :
    (base.overlay top).get? key = (top.get? key).or (base.get? key) := by
  induction top generalizing base with
  | nil => simp [overlay_nil]
  | cons entry rest ih =>
    obtain ⟨n, v⟩ := entry
    have hrest : Entries.keys rest = rest.map Prod.fst := rfl
    simp only [keys, List.map_cons, List.nodup_cons] at h
    rw [overlay_cons, ih _ h.2, get?_insert, get?_cons]
    by_cases hn : n = key
    · have : get? rest key = none := (get?_eq_none_iff rest key).2 (by rw [hrest, ← hn]; exact h.1)
      simp [hn, this]
    · simp [hn]

end Entries

end TransformPreset
