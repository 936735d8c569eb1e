import TransformPreset.Proofs.Outcome
import TransformPreset.Proofs.Value.Data
import TransformPreset.Settings.File
import TransformPreset.Toml.Document

/-!
# TOML documents are data

A document holds texts, truth values, numbers, lists and tables, so the table that it writes is
data. Values are read by recursion on fuel, which keeps data (`Toml.KeepsData`), and a document
statement by statement, each of which changes a table at some path (`Toml.isData_atPath`). So the
reader of documents answers with data only (`Toml.readsData`).
-/

namespace TransformPreset

/-- Whether a reader of settings files answers with data only. -/
def ReadsData (reader : TableReader) : Prop :=
  ∀ contents table, reader contents = .ok table → (Value.map table).IsData

/-- A map that is data stays so when a key gets a value that is data. -/
theorem Value.IsData.insert {entries : Entries Value} {value : Value}
    (h : (Value.map entries).IsData) (hvalue : value.IsData) (key : String) :
    (Value.map (entries.insert key value)).IsData := by
  cases h with
  | map hentries =>
    refine .map fun entry hentry => ?_
    rcases Entries.mem_insert hentry with rfl | hold
    · exact hvalue
    · exact hentries entry hold

namespace Toml

variable {table next : Entries Value} {value : Value}

/-! ## Tables by path -/

/-- The empty table is data. -/
theorem isData_empty : (Value.map []).IsData :=
  .map fun _ hentry => absurd hentry List.not_mem_nil

/-- A change at a path keeps data if it does so with any table. -/
theorem isData_atPath {throughLists : Bool} {change : Entries Value → Option (Entries Value)}
    (hchange : ∀ table next, (Value.map table).IsData → change table = some next →
      (Value.map next).IsData)
    {path : List String} (htable : (Value.map table).IsData)
    (h : atPath throughLists change path table = some next) : (Value.map next).IsData := by
  induction path generalizing table next with
  | nil => exact hchange table next htable h
  | cons key path ih =>
    rw [atPath] at h
    split at h
    · obtain ⟨below, hbelow, rfl⟩ := Option.map_eq_some_iff.1 h
      exact htable.insert (ih isData_empty hbelow) key
    · rename_i below hget
      obtain ⟨changed, hchanged, rfl⟩ := Option.map_eq_some_iff.1 h
      exact htable.insert (ih (htable.of_get? hget) hchanged) key
    · rename_i items hget
      split at h
      · rename_i last _ hlast
        obtain ⟨changed, hchanged, rfl⟩ := Option.map_eq_some_iff.1 h
        cases htable.of_get? hget with
        | list hitems =>
          -- The last item is changed, and those before it stay.
          have hnew := ih (hitems _ (List.mem_of_getLast? hlast)) hchanged
          refine htable.insert (.list fun item hitem => ?_) key
          rcases List.mem_append.1 hitem with hold | hitem
          · exact hitems item ((List.dropLast_sublist _).subset hold)
          · rw [List.mem_singleton.1 hitem]
            exact hnew
      · cases h
    · cases h

/-- A new key adds data to data. -/
theorem isData_addNew {key : String} (hvalue : value.IsData) (htable : (Value.map table).IsData)
    (h : addNew key value table = some next) : (Value.map next).IsData := by
  unfold addNew at h
  split at h
  · cases h
  · rw [← Option.some.inj h]
    exact htable.insert hvalue key

/-- A new item of a list of tables adds data to data. -/
theorem isData_addItem {key : String} (htable : (Value.map table).IsData)
    (h : addItem key table = some next) : (Value.map next).IsData := by
  unfold addItem at h
  split at h
  · rw [← Option.some.inj h]
    refine htable.insert (.list fun item hitem => ?_) key
    rw [List.mem_singleton.1 hitem]
    exact isData_empty
  · rename_i items hget
    rw [← Option.some.inj h]
    cases htable.of_get? hget with
    | list hitems =>
      refine htable.insert (.list fun item hitem => ?_) key
      rcases List.mem_append.1 hitem with hold | hitem
      · exact hitems item hold
      · rw [List.mem_singleton.1 hitem]
        exact isData_empty
  · cases h

/-! ## Values -/

/-- A truth value is data. -/
theorem isData_readBool? {text left : List Char} (h : readBool? text = some (value, left)) :
    value.IsData := by
  unfold readBool? at h
  split at h
  · rw [← (Prod.mk.inj (Option.some.inj h)).1]
    exact .bool true
  · split at h
    · rw [← (Prod.mk.inj (Option.some.inj h)).1]
      exact .bool false
    · cases h

/-- A decimal number is data. -/
theorem isData_readDecimal? {text left : List Char}
    (h : readDecimal? text = some (.ok (value, left))) : value.IsData := by
  obtain ⟨⟨whole, after⟩, -, h⟩ := Option.map_eq_some_iff.1 h
  dsimp only at h
  split at h
  · split at h
    · rw [← (Prod.mk.inj (Except.ok.inj h)).1]
      exact .int _
    · cases h
  · split at h
    · rw [← (Prod.mk.inj (Except.ok.inj h)).1]
      exact .float _
    · cases h

/-- A number with a name is data. -/
theorem isData_readNamed? {text left : List Char} (h : readNamed? text = some (value, left)) :
    value.IsData := by
  unfold readNamed? at h
  dsimp only at h
  split at h
  · rw [← (Prod.mk.inj (Option.some.inj h)).1]
    exact .float _
  · split at h
    · rw [← (Prod.mk.inj (Option.some.inj h)).1]
      exact .float _
    · cases h

/-- A number is data. -/
theorem isData_readNumber {text left : List Char} (h : readNumber text = .ok (value, left)) :
    value.IsData := by
  unfold readNumber at h
  split at h
  · rw [← (Prod.mk.inj (Except.ok.inj h)).1]
    exact .int _
  · split at h
    · rename_i outcome hdecimal
      rw [h] at hdecimal
      exact isData_readDecimal? hdecimal
    · split at h
      · rename_i found hnamed
        rw [Except.ok.inj h] at hnamed
        exact isData_readNamed? hnamed
      · cases h

/-- A date or a time is data. -/
theorem isData_readDate? {text left : List Char} (h : readDate? text = some (.ok (value, left))) :
    value.IsData := by
  rcases Option.or_eq_some_iff.1 h with h | ⟨-, h⟩
  · obtain ⟨⟨day, after⟩, -, h⟩ := Option.map_eq_some_iff.1 h
    dsimp only at h
    split at h
    · cases h
    · split at h
      · rw [← (Prod.mk.inj (Except.ok.inj h)).1]
        exact .other _
      · rw [← (Prod.mk.inj (Except.ok.inj h)).1]
        exact .other _
  · obtain ⟨found, -, h⟩ := Option.map_eq_some_iff.1 h
    rw [← (Prod.mk.inj (Except.ok.inj h)).1]
    exact .other _

/-- A scalar is data. -/
theorem isData_readScalar {text left : List Char} (h : readScalar text = .ok (value, left)) :
    value.IsData := by
  unfold readScalar at h
  split at h
  · obtain ⟨⟨cs, rest⟩, -, hvalue⟩ := except_map_ok_iff.1 h
    rw [← (Prod.mk.inj hvalue).1]
    exact .text _
  · split at h
    · rename_i found hbool
      rw [Except.ok.inj h] at hbool
      exact isData_readBool? hbool
    · split at h
      · rename_i outcome hdate
        rw [h] at hdate
        exact isData_readDate? hdate
      · exact isData_readNumber h

/-- What the readers of values read with some fuel is data. -/
structure KeepsData (fuel : Nat) : Prop where
  /-- A value is data. -/
  value : ∀ room text value left, readValue fuel room text = .ok (value, left) → value.IsData
  /-- So are the items of a list. -/
  items : ∀ room text items left, readItems fuel room text = .ok (items, left) →
    ∀ item ∈ items, Value.IsData item
  /-- So is the value of a pair. -/
  pair : ∀ room text key value left, readPair fuel room text = .ok (key, value, left) →
    value.IsData
  /-- An inline table is data if its members so far are. -/
  members : ∀ room marks table text next left, (Value.map table).IsData →
    readMembers fuel room marks table text = .ok (next, left) → (Value.map next).IsData

/-- Values are data, however much fuel there is. -/
theorem keepsData (fuel : Nat) : KeepsData fuel := by
  induction fuel with
  | zero =>
    -- Without fuel nothing is read.
    refine ⟨?_, ?_, ?_, ?_⟩
    · intro room text value left h
      rw [readValue] at h
      cases h
    · intro room text items left h
      rw [readItems] at h
      cases h
    · intro room text key value left h
      rw [readPair] at h
      cases h
    · intro room marks table text next left _ h
      rw [readMembers] at h
      cases h
  | succ fuel ih =>
    refine ⟨?value, ?items, ?pair, ?members⟩
    case value =>
      intro room text value left h
      unfold readValue at h
      split at h
      · -- A list.
        obtain ⟨inside, -, h⟩ := except_bind_ok_iff.1 h
        obtain ⟨lines, -, h⟩ := except_bind_ok_iff.1 h
        split at h
        · rw [← (Prod.mk.inj (Except.ok.inj h)).1]
          exact .list fun _ hitem => absurd hitem List.not_mem_nil
        · obtain ⟨⟨items, rest⟩, hitems, h⟩ := except_bind_ok_iff.1 h
          rw [← (Prod.mk.inj (Except.ok.inj h)).1]
          exact .list (ih.items _ _ _ _ hitems)
      · -- An inline table.
        obtain ⟨inside, -, h⟩ := except_bind_ok_iff.1 h
        split at h
        · rw [← (Prod.mk.inj (Except.ok.inj h)).1]
          exact isData_empty
        · obtain ⟨⟨table, rest⟩, htable, h⟩ := except_bind_ok_iff.1 h
          rw [← (Prod.mk.inj (Except.ok.inj h)).1]
          exact ih.members _ _ _ _ _ _ isData_empty htable
      · exact isData_readScalar h
    case items =>
      intro room text items left h
      rw [readItems] at h
      obtain ⟨⟨first, after⟩, hfirst, h⟩ := except_bind_ok_iff.1 h
      have hdata := ih.value _ _ _ _ hfirst
      obtain ⟨lines, -, h⟩ := except_bind_ok_iff.1 h
      have hsingle : ∀ item ∈ [first], Value.IsData item := List.forall_mem_singleton.2 hdata
      split at h
      · rw [← (Prod.mk.inj (Except.ok.inj h)).1]
        exact hsingle
      · obtain ⟨more, -, h⟩ := except_bind_ok_iff.1 h
        split at h
        · rw [← (Prod.mk.inj (Except.ok.inj h)).1]
          exact hsingle
        · obtain ⟨⟨others, rest⟩, hothers, h⟩ := except_bind_ok_iff.1 h
          rw [← (Prod.mk.inj (Except.ok.inj h)).1]
          exact List.forall_mem_cons.2 ⟨hdata, ih.items _ _ _ _ hothers⟩
      · cases h
    case pair =>
      intro room text key value left h
      rw [readPair] at h
      obtain ⟨⟨name, after⟩, -, h⟩ := except_bind_ok_iff.1 h
      dsimp only at h
      split at h
      · obtain ⟨⟨found, rest⟩, hfound, h⟩ := except_bind_ok_iff.1 h
        obtain ⟨-, hpair⟩ := Prod.mk.inj (Except.ok.inj h)
        rw [← (Prod.mk.inj hpair).1]
        exact ih.value _ _ _ _ hfound
      · cases h
    case members =>
      intro room marks table text next left htable h
      rw [readMembers] at h
      obtain ⟨⟨key, value, after⟩, hpair, h⟩ := except_bind_ok_iff.1 h
      have hvalue := ih.pair _ _ _ _ _ hpair
      dsimp only at h
      split at h
      · cases h
      · split at h
        · cases h
        · rename_i changed hchanged
          have hdata := isData_atPath (fun _ _ => isData_addNew hvalue) htable hchanged
          split at h
          · rw [← (Prod.mk.inj (Except.ok.inj h)).1]
            exact hdata
          · exact ih.members _ _ _ _ _ _ hdata h
          · cases h

/-! ## Documents -/

namespace Progress

variable {progress later : Progress}

/-- A pair adds data to data. -/
theorem isData_addPair {key : List String} (hvalue : value.IsData)
    (h : (Value.map progress.table).IsData) (hadd : progress.addPair key value = some later) :
    (Value.map later.table).IsData := by
  unfold addPair at hadd
  dsimp only at hadd
  split at hadd
  · cases hadd
  · obtain ⟨table, htable, rfl⟩ := Option.map_eq_some_iff.1 hadd
    exact isData_atPath (fun _ _ => isData_addNew hvalue) h htable

/-- A table that is opened leaves data. -/
theorem isData_openTable {key : List String} (h : (Value.map progress.table).IsData)
    (hopen : progress.openTable key = some later) : (Value.map later.table).IsData := by
  unfold openTable at hopen
  split at hopen
  · cases hopen
  · obtain ⟨table, htable, rfl⟩ := Option.map_eq_some_iff.1 hopen
    exact isData_atPath (fun _ _ hdata hsame => Option.some.inj hsame ▸ hdata) h htable

/-- So does an item that is opened. -/
theorem isData_openItem {key : List String} (h : (Value.map progress.table).IsData)
    (hopen : progress.openItem key = some later) : (Value.map later.table).IsData := by
  unfold openItem at hopen
  dsimp only at hopen
  split at hopen
  · cases hopen
  · obtain ⟨table, htable, rfl⟩ := Option.map_eq_some_iff.1 hopen
    exact isData_atPath (fun _ _ => isData_addItem) h htable

end Progress

variable {progress later : Progress}

/-- A step that was allowed is the step. -/
theorem allowed_ok_iff {step : Option Progress} :
    allowed step = .ok progress ↔ step = some progress := by
  cases step <;> simp [allowed]

/-- A header leaves data. -/
theorem isData_readHeader {text left : List Char} (h : (Value.map progress.table).IsData)
    (hread : readHeader progress text = .ok (later, left)) : (Value.map later.table).IsData := by
  have hsettled : (Value.map progress.settle.table).IsData := h
  unfold readHeader at hread
  split at hread
  · obtain ⟨⟨key, after⟩, -, hread⟩ := except_bind_ok_iff.1 hread
    obtain ⟨next, hnext, hread⟩ := except_bind_ok_iff.1 hread
    split at hread
    · rw [← (Prod.mk.inj (Except.ok.inj hread)).1]
      exact Progress.isData_openItem hsettled (allowed_ok_iff.1 hnext)
    · cases hread
  · obtain ⟨⟨key, after⟩, -, hread⟩ := except_bind_ok_iff.1 hread
    obtain ⟨next, hnext, hread⟩ := except_bind_ok_iff.1 hread
    split at hread
    · rw [← (Prod.mk.inj (Except.ok.inj hread)).1]
      exact Progress.isData_openTable hsettled (allowed_ok_iff.1 hnext)
    · cases hread

/-- So does a statement. -/
theorem isData_readStatement {text left : List Char} (h : (Value.map progress.table).IsData)
    (hread : readStatement progress text = .ok (later, left)) :
    (Value.map later.table).IsData := by
  unfold readStatement at hread
  split at hread
  · rw [← (Prod.mk.inj (Except.ok.inj hread)).1]
    exact h
  · exact isData_readHeader h hread
  · obtain ⟨⟨key, value, rest⟩, hpair, hread⟩ := except_bind_ok_iff.1 hread
    obtain ⟨next, hnext, hread⟩ := except_bind_ok_iff.1 hread
    rw [← (Prod.mk.inj (Except.ok.inj hread)).1]
    exact Progress.isData_addPair ((keepsData _).pair _ _ _ _ _ hpair) h (allowed_ok_iff.1 hnext)

/-- So do all statements of a document. -/
theorem isData_readStatements {fuel : Nat} {text : List Char}
    (h : (Value.map progress.table).IsData)
    (hread : readStatements fuel progress text = .ok table) : (Value.map table).IsData := by
  induction fuel generalizing progress text with
  | zero => cases hread
  | succ fuel ih =>
    rw [readStatements] at hread
    split at hread
    · rw [← Except.ok.inj hread]
      exact h
    · exact ih h hread
    · obtain ⟨⟨next, after⟩, hnext, hread⟩ := except_bind_ok_iff.1 hread
      obtain ⟨rest, -, hread⟩ := except_bind_ok_iff.1 hread
      have hdata := isData_readStatement h hnext
      split at hread
      · rw [← Except.ok.inj hread]
        exact hdata
      · exact ih hdata hread
      · cases hread

/-- What a document writes is data. -/
theorem readsData : ReadsData read := by
  intro bytes table h
  unfold read at h
  split at h
  · cases h
  · exact isData_readStatements isData_empty h

end Toml

end TransformPreset
