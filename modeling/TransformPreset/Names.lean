/-!
# Lists of names

Names without repetition, each at its first place, and names by their code points.
-/

namespace TransformPreset

/-- The names that were not seen before, each at its first place. -/
def firstPlaces (seen : List String) : List String → List String
  | [] => []
  | name :: rest =>
    if seen.contains name then firstPlaces seen rest
    else name :: firstPlaces (name :: seen) rest

/-- The names of a list, each at its first place. -/
def distinct (names : List String) : List String :=
  firstPlaces [] names

/-- The names by their code points. -/
def sortNames (names : List String) : List String :=
  names.mergeSort fun a b => !decide (b < a)

theorem mem_firstPlaces {seen names : List String} {name : String} :
    name ∈ firstPlaces seen names ↔ name ∈ names ∧ name ∉ seen := by
  induction names generalizing seen with
  | nil => simp [firstPlaces]
  | cons n rest ih =>
    simp only [firstPlaces]
    split
    · rename_i h
      rw [List.contains_iff_mem] at h
      rw [ih, List.mem_cons]
      exact ⟨fun ⟨h1, h2⟩ => ⟨.inr h1, h2⟩, fun ⟨h1, h2⟩ =>
        ⟨h1.resolve_left fun e => h2 (e ▸ h), h2⟩⟩
    · rename_i h
      rw [List.contains_iff_mem] at h
      rw [List.mem_cons, List.mem_cons, ih, List.mem_cons]
      by_cases e : name = n
      · simp [e, h]
      · simp [e]

theorem nodup_firstPlaces (seen names : List String) : (firstPlaces seen names).Nodup := by
  induction names generalizing seen with
  | nil => simp [firstPlaces]
  | cons n rest ih =>
    simp only [firstPlaces]
    split
    · exact ih seen
    · rw [List.nodup_cons]
      exact ⟨fun h => (mem_firstPlaces.1 h).2 (List.mem_cons_self ..), ih _⟩

/-- Which names are new depends on the names that were seen, not on how they are listed. -/
theorem firstPlaces_congr {seen others : List String} (h : ∀ name, name ∈ seen ↔ name ∈ others)
    (names : List String) : firstPlaces seen names = firstPlaces others names := by
  induction names generalizing seen others with
  | nil => rfl
  | cons n rest ih =>
    have hn : seen.contains n = others.contains n := by
      rw [Bool.eq_iff_iff, List.contains_iff_mem, List.contains_iff_mem]
      exact h n
    have hnext : ∀ name, name ∈ n :: seen ↔ name ∈ n :: others := by
      intro name
      rw [List.mem_cons, List.mem_cons, h name]
    simp only [firstPlaces]
    rw [hn, ih h, ih hnext]

theorem mem_distinct {names : List String} {name : String} :
    name ∈ distinct names ↔ name ∈ names := by
  simp [distinct, mem_firstPlaces]

theorem nodup_distinct (names : List String) : (distinct names).Nodup :=
  nodup_firstPlaces [] names

end TransformPreset
