import TransformPreset.Json.Writer
import TransformPreset.Proofs.Outcome
import TransformPreset.Proofs.Value.Data

/-!
# Values with a JSON form

Which values can be written as JSON, and how writing fails. `Value.HasJson` says that a value is
plain data, that each of its integers is short enough for a text, and that its lists and maps lie in
one another no deeper than there is room for: exactly such a value is written
(`Json.exists_write_iff`), and it has a JSON form still when its keys are sorted. Writing fails in
three ways (`Json.write_failsWith`), and a map of numbers is hindered by an integer that is too long
only (`Json.write_map_failsWith`).
-/

namespace TransformPreset

/-- Values with a JSON form in so much room for lists and maps in one another. -/
inductive Value.HasJson : (room : Nat) → Value → Prop
  | null {room : Nat} : HasJson room .null
  | bool {room : Nat} (b : Bool) : HasJson room (.bool b)
  | int {room : Nat} {n : Int} (h : isTooLong n = false) : HasJson room (.int n)
  | float {room : Nat} (x : Binary64) : HasJson room (.float x)
  | text {room : Nat} (s : String) : HasJson room (.text s)
  | list {room : Nat} {items : List Value} (h : ∀ item ∈ items, HasJson room item) :
    HasJson (room + 1) (.list items)
  | map {room : Nat} {entries : List (String × Value)}
    (h : ∀ entry ∈ entries, HasJson room entry.2) : HasJson (room + 1) (.map entries)

namespace Json

variable {layout : Layout} {levels level : Nat} {value : Value}

/-! ## Writing -/

/-- The items of a list are written if each of them is. -/
theorem exists_writeItems {items : List Value}
    (h : ∀ item ∈ items, ∃ text, writeAt layout levels level item = .ok text) :
    ∃ texts, writeItems layout levels level items = .ok texts := by
  induction items with
  | nil => exact ⟨[], by rw [writeItems]⟩
  | cons item rest ih =>
    obtain ⟨⟨text, htext⟩, hrest⟩ := List.forall_mem_cons.1 h
    obtain ⟨texts, htexts⟩ := ih hrest
    exact ⟨text :: texts, by rw [writeItems, htext, htexts]; rfl⟩

/-- The members of a map are written if their values are. -/
theorem exists_writeMembers {entries : List (String × Value)}
    (h : ∀ entry ∈ entries, ∃ text, writeAt layout levels level entry.2 = .ok text) :
    ∃ texts, writeMembers layout levels level entries = .ok texts := by
  induction entries with
  | nil => exact ⟨[], by rw [writeMembers]⟩
  | cons entry rest ih =>
    obtain ⟨⟨text, htext⟩, hrest⟩ := List.forall_mem_cons.1 h
    obtain ⟨texts, htexts⟩ := ih hrest
    exact ⟨(writeText entry.1 ++ ": " ++ text) :: texts, by rw [writeMembers, htext, htexts]; rfl⟩

/-- A value with a JSON form in the room that is left is written. -/
theorem exists_writeAt {room : Nat} (h : value.HasJson room) (hroom : room + level ≤ levels + 1) :
    ∃ text, writeAt layout levels level value = .ok text := by
  induction h generalizing level with
  | null => exact ⟨_, by rw [writeAt]⟩
  | bool b => exact ⟨_, by rw [writeAt]⟩
  | int h => exact ⟨_, by rw [writeAt, h]; rfl⟩
  | float x => exact ⟨_, by rw [writeAt]⟩
  | text s => exact ⟨_, by rw [writeAt]⟩
  | @list room items _ ih =>
    have hinner : room + (level + 1) ≤ levels + 1 := by omega
    obtain ⟨texts, htexts⟩ := exists_writeItems fun item hitem => ih item hitem hinner
    exact ⟨_, by rw [writeAt, if_neg (by omega), htexts]; rfl⟩
  | @map room entries _ ih =>
    have hinner : room + (level + 1) ≤ levels + 1 := by omega
    obtain ⟨texts, htexts⟩ := exists_writeMembers fun entry hentry => ih entry hentry hinner
    exact ⟨_, by rw [writeAt, if_neg (by omega), htexts]; rfl⟩

/-- A value with a JSON form in the room of its writer is written. -/
theorem exists_write {room : Nat} (h : value.HasJson room) (hroom : room ≤ levels + 1) :
    ∃ text, write layout levels value = .ok text :=
  exists_writeAt h hroom

mutual

/-- A value that is written has a JSON form in the room that is left. -/
theorem hasJson_of_writeAt {layout : Layout} {levels level : Nat} (value : Value) {text : String}
    (h : writeAt layout levels level value = .ok text) : value.HasJson (levels + 1 - level) := by
  cases value with
  | null => exact .null
  | bool b => exact .bool b
  | float x => exact .float x
  | text s => exact .text s
  | int n =>
    rw [writeAt] at h
    split at h
    · cases h
    · rename_i hshort
      exact .int (Bool.eq_false_iff.2 hshort)
  | list items =>
    rw [writeAt] at h
    split at h
    · cases h
    · rename_i hlevel
      obtain ⟨texts, htexts, -⟩ := except_map_ok_iff.1 h
      obtain ⟨room, hroom⟩ := Nat.exists_eq_add_of_le (Nat.not_lt.1 hlevel)
      obtain rfl := hroom
      have hitems := hasJson_of_writeItems items htexts
      rw [show level + room + 1 - (level + 1) = room by omega] at hitems
      rw [show level + room + 1 - level = room + 1 by omega]
      exact .list hitems
  | map entries =>
    rw [writeAt] at h
    split at h
    · cases h
    · rename_i hlevel
      obtain ⟨texts, htexts, -⟩ := except_map_ok_iff.1 h
      obtain ⟨room, hroom⟩ := Nat.exists_eq_add_of_le (Nat.not_lt.1 hlevel)
      obtain rfl := hroom
      have hentries := hasJson_of_writeMembers entries htexts
      rw [show level + room + 1 - (level + 1) = room by omega] at hentries
      rw [show level + room + 1 - level = room + 1 by omega]
      exact .map hentries
  | other _ | spec _ =>
    rw [writeAt] at h
    cases h

/-- So have the items of a list that are written. -/
theorem hasJson_of_writeItems {layout : Layout} {levels level : Nat} (items : List Value)
    {texts : List String} (h : writeItems layout levels level items = .ok texts) :
    ∀ item ∈ items, item.HasJson (levels + 1 - level) := by
  cases items with
  | nil => exact fun _ hitem => absurd hitem List.not_mem_nil
  | cons item rest =>
    rw [writeItems] at h
    obtain ⟨first, hfirst, h⟩ := except_bind_ok_iff.1 h
    obtain ⟨others, hothers, -⟩ := except_bind_ok_iff.1 h
    exact List.forall_mem_cons.2
      ⟨hasJson_of_writeAt item hfirst, hasJson_of_writeItems rest hothers⟩

/-- And so have the values of members that are written. -/
theorem hasJson_of_writeMembers {layout : Layout} {levels level : Nat}
    (entries : List (String × Value)) {texts : List String}
    (h : writeMembers layout levels level entries = .ok texts) :
    ∀ entry ∈ entries, entry.2.HasJson (levels + 1 - level) := by
  cases entries with
  | nil => exact fun _ hentry => absurd hentry List.not_mem_nil
  | cons entry rest =>
    obtain ⟨key, value⟩ := entry
    rw [writeMembers] at h
    obtain ⟨first, hfirst, h⟩ := except_bind_ok_iff.1 h
    obtain ⟨others, hothers, -⟩ := except_bind_ok_iff.1 h
    exact List.forall_mem_cons.2
      ⟨hasJson_of_writeAt value hfirst, hasJson_of_writeMembers rest hothers⟩

end

/-- A value is written exactly if it has a JSON form in the room of its writer. -/
theorem exists_write_iff :
    (∃ text, write layout levels value = .ok text) ↔ value.HasJson (levels + 1) :=
  ⟨fun ⟨_, htext⟩ => hasJson_of_writeAt value htext, fun h => exists_write h (Nat.le_refl _)⟩

/-! ## Failing -/

/-- Why a value has no JSON form. -/
def NoForm (failure : Failure) : Prop :=
  failure = .notSerializable ∨ failure = .integerTooLong ∨ failure = .nestedTooDeeply

mutual

/-- Writing a value fails for want of a JSON form only. -/
theorem writeAt_failsWith (layout : Layout) (levels level : Nat) (value : Value) :
    FailsWith NoForm (writeAt layout levels level value) := by
  cases value with
  | null | bool _ | float _ | text _ =>
    rw [writeAt]
    exact failsWith_ok _
  | int n =>
    rw [writeAt]
    split
    · exact failsWith_error (.inr (.inl rfl))
    · exact failsWith_ok _
  | list items =>
    rw [writeAt]
    split
    · exact failsWith_error (.inr (.inr rfl))
    · exact (writeItems_failsWith layout levels (level + 1) items).map _
  | map entries =>
    rw [writeAt]
    split
    · exact failsWith_error (.inr (.inr rfl))
    · exact (writeMembers_failsWith layout levels (level + 1) entries).map _
  | other _ | spec _ =>
    rw [writeAt]
    exact failsWith_error (.inl rfl)

/-- So does writing the items of a list. -/
theorem writeItems_failsWith (layout : Layout) (levels level : Nat) (items : List Value) :
    FailsWith NoForm (writeItems layout levels level items) := by
  cases items with
  | nil =>
    rw [writeItems]
    exact failsWith_ok _
  | cons item rest =>
    rw [writeItems]
    exact (writeAt_failsWith layout levels level item).bind fun _ _ =>
      (writeItems_failsWith layout levels level rest).bind fun _ _ => failsWith_ok _

/-- And so does writing the members of a map. -/
theorem writeMembers_failsWith (layout : Layout) (levels level : Nat)
    (entries : List (String × Value)) :
    FailsWith NoForm (writeMembers layout levels level entries) := by
  cases entries with
  | nil =>
    rw [writeMembers]
    exact failsWith_ok _
  | cons entry rest =>
    obtain ⟨key, value⟩ := entry
    rw [writeMembers]
    exact (writeAt_failsWith layout levels level value).bind fun _ _ =>
      (writeMembers_failsWith layout levels level rest).bind fun _ _ => failsWith_ok _

end

/-- Writing fails for want of a JSON form only. -/
theorem write_failsWith (layout : Layout) (levels : Nat) (value : Value) :
    FailsWith NoForm (write layout levels value) :=
  writeAt_failsWith layout levels 0 value

end Json

/-! ## Numbers -/

namespace Value

/-- Whether a value is an integer that is too long to be written. -/
def isLong : Value → Bool
  | .int n => isTooLong n
  | _ => false

/-- Whether a value is a number, or null in the place of one. -/
def IsFlat (value : Value) : Prop :=
  value = .null ∨ ∃ n, value.number? = some n

theorem isFlat_ofNumber (n : Number) : (ofNumber n).IsFlat :=
  .inr ⟨n, number?_ofNumber n⟩

/-- A number has a JSON form unless it is an integer that is too long. -/
theorem IsFlat.hasJson_iff {room : Nat} {value : Value} (h : value.IsFlat) :
    value.HasJson room ↔ value.isLong = false := by
  rcases h with rfl | ⟨n, hn⟩
  · exact iff_of_true .null rfl
  · obtain rfl := eq_ofNumber_of_number? hn
    cases n with
    | float x => exact iff_of_true (.float x) rfl
    | int n =>
      constructor
      · rintro (_ | _ | hshort)
        exact hshort
      · exact .int

end Value

namespace Json

variable {layout : Layout} {levels room : Nat} {entries : Entries Value}

/-- A map of numbers has a JSON form unless one of them is an integer that is too long. -/
theorem hasJson_map_iff (h : ∀ entry ∈ entries, Value.IsFlat entry.2) :
    (Value.map entries).HasJson (room + 1) ↔ ∀ entry ∈ entries, Value.isLong entry.2 = false := by
  constructor
  · rintro (_ | _ | _ | _ | _ | _ | hentries)
    exact fun entry hentry => (h entry hentry).hasJson_iff.1 (hentries entry hentry)
  · exact fun hshort => .map fun entry hentry =>
      (h entry hentry).hasJson_iff.2 (hshort entry hentry)

/-- Writing a map of numbers fails for the length of an integer only. -/
theorem write_map_failsWith (h : ∀ entry ∈ entries, Value.IsFlat entry.2) :
    FailsWith (· = .integerTooLong) (write layout levels (.map entries)) := by
  have hmembers : FailsWith (· = .integerTooLong) (writeMembers layout levels 1 entries) := by
    induction entries with
    | nil =>
      rw [writeMembers]
      exact failsWith_ok _
    | cons entry rest ih =>
      obtain ⟨key, value⟩ := entry
      obtain ⟨hvalue, hrest⟩ := List.forall_mem_cons.1 h
      rw [writeMembers]
      refine FailsWith.bind ?_ fun _ _ => (ih hrest).bind fun _ _ => failsWith_ok _
      rcases hvalue with hnull | ⟨n, hn⟩
      · dsimp only at hnull
        rw [hnull, writeAt]
        exact failsWith_ok _
      · obtain rfl := Value.eq_ofNumber_of_number? hn
        cases n with
        | float x =>
          rw [Value.ofNumber, writeAt]
          exact failsWith_ok _
        | int n =>
          rw [Value.ofNumber, writeAt]
          split
          · exact failsWith_error rfl
          · exact failsWith_ok _
  rw [write, writeAt, if_neg (Nat.not_lt_zero levels)]
  exact hmembers.map _

/-! ## Sorted keys -/

/-- Sorting the keys in a list sorts them in its items. -/
theorem sortItems_eq_map (items : List Value) : sortItems items = items.map sortKeys := by
  induction items with
  | nil => rfl
  | cons item rest ih => rw [sortItems, ih, List.map_cons]

/-- Sorting the keys in the members of a map sorts them in its values. -/
theorem sortMembers_eq_map (entries : Entries Value) :
    sortMembers entries = entries.map fun (key, value) => (key, sortKeys value) := by
  induction entries with
  | nil => rfl
  | cons entry rest ih => rw [sortMembers, ih, List.map_cons]

/-- What is looked up in a map with sorted keys is what was under the key, with sorted keys. -/
theorem exists_sortKeys_map (hdistinct : entries.keys.Nodup) :
    ∃ sorted : Entries Value, sortKeys (.map entries) = .map sorted ∧
      ∀ key, sorted.get? key = (entries.get? key).map sortKeys := by
  refine ⟨_, by rw [sortKeys], fun key => ?_⟩
  have hkeys : Entries.keys (sortMembers entries) = entries.keys := by
    rw [sortMembers_eq_map, Entries.keys_map]
  rw [Entries.get?_perm (Entries.sorted_perm _).symm (hkeys ▸ hdistinct), sortMembers_eq_map,
    Entries.get?_map]

/-- What has a JSON form has one when its keys are sorted. -/
theorem hasJson_sortKeys {value : Value} (h : value.HasJson room) :
    (sortKeys value).HasJson room := by
  induction h with
  | null => exact .null
  | bool b => exact .bool b
  | int h => exact .int h
  | float x => exact .float x
  | text s => exact .text s
  | list _ ih =>
    rw [sortKeys, sortItems_eq_map]
    exact .list (List.forall_mem_map.2 ih)
  | map _ ih =>
    rw [sortKeys, sortMembers_eq_map]
    refine .map fun entry hentry => ?_
    obtain ⟨original, horiginal, rfl⟩ := List.mem_map.1 ((Entries.sorted_perm _).mem_iff.1 hentry)
    exact ih original horiginal

end Json

end TransformPreset
