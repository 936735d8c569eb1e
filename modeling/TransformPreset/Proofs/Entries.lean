import TransformPreset.Entries
import TransformPreset.Proofs.Names

/-!
# More about maps in insertion order

How look-ups, keys and entries of a map go together, what mapping its values does, and which entries
a write leaves there. Where no key comes twice, a look-up does not depend on the order of entries
(`get?_perm`), and one map laid over another has its new keys behind the old ones (`keys_overlay`).
-/

namespace TransformPreset.Entries

variable {α β : Type}

/-- What is looked up is an entry of the map. -/
theorem mem_of_get? {entries : Entries α} {key : String} {value : α}
    (h : entries.get? key = some value) : (key, value) ∈ entries := by
  induction entries with
  | nil => simp at h
  | cons entry rest ih =>
    obtain ⟨name, old⟩ := entry
    rw [get?_cons] at h
    split at h
    · rename_i hname
      obtain rfl := Option.some.inj h
      rw [hname]
      exact List.mem_cons_self
    · exact List.mem_cons_of_mem _ (ih h)

/-- Where no key comes twice, every entry is what is looked up under its key. -/
theorem get?_of_mem {entries : Entries α} (hdistinct : entries.keys.Nodup) {key : String}
    {value : α} (h : (key, value) ∈ entries) : entries.get? key = some value := by
  induction entries with
  | nil => exact absurd h List.not_mem_nil
  | cons entry rest ih =>
    obtain ⟨name, old⟩ := entry
    obtain ⟨hname, hrest⟩ := List.nodup_cons.1 hdistinct
    rw [get?_cons]
    rcases List.mem_cons.1 h with heq | hmem
    · obtain ⟨rfl, rfl⟩ := Prod.mk.inj heq
      exact if_pos rfl
    · -- The key is one of the rest, so it is not that of the first entry.
      have hne : name ≠ key := fun heq => hname (List.mem_map.2 ⟨(key, value), hmem, heq.symm⟩)
      rw [if_neg hne, ih hrest hmem]

/-- Where no key comes twice, a look-up does not depend on the order of the entries. -/
theorem get?_perm {entries others : Entries α} (hperm : entries.Perm others)
    (hdistinct : entries.keys.Nodup) (key : String) : others.get? key = entries.get? key := by
  have hkeys : entries.keys.Perm others.keys := hperm.map Prod.fst
  have hothers : others.keys.Nodup := hkeys.nodup_iff.1 hdistinct
  cases hget : entries.get? key with
  | some value => exact get?_of_mem hothers (hperm.mem_iff.1 (mem_of_get? hget))
  | none =>
    rw [get?_eq_none_iff] at hget ⊢
    exact fun hmem => hget (hkeys.mem_iff.2 hmem)

/-- Maps in which the same is looked up have the same entries. -/
theorem perm_of_get? {entries others : Entries α} (hdistinct : entries.keys.Nodup)
    (hothers : others.keys.Nodup) (h : ∀ key, entries.get? key = others.get? key) :
    entries.Perm others := by
  have hnodup : ∀ {map : Entries α}, map.keys.Nodup → map.Nodup := fun hkeys =>
    List.Pairwise.of_map Prod.fst (fun _ _ hne heq => hne (congrArg Prod.fst heq)) hkeys
  have hmem : ∀ entry, entry ∈ entries ↔ entry ∈ others := by
    rintro ⟨key, value⟩
    constructor
    · intro hentry
      exact mem_of_get? ((h key).symm.trans (get?_of_mem hdistinct hentry))
    · intro hentry
      exact mem_of_get? ((h key).trans (get?_of_mem hothers hentry))
  exact (List.perm_ext_iff_of_nodup (hnodup hdistinct) (hnodup hothers)).2 hmem

/-- The key of an entry is a key of the map. -/
theorem mem_keys_of_mem {entries : Entries α} {key : String} {value : α}
    (h : (key, value) ∈ entries) : key ∈ entries.keys :=
  List.mem_map.2 ⟨_, h, rfl⟩

/-- Maps with the same keys in the same order, in which the same is looked up, are the same. -/
theorem eq_of_get? {entries others : Entries α} (hkeys : entries.keys = others.keys)
    (hdistinct : entries.keys.Nodup) (h : ∀ key, entries.get? key = others.get? key) :
    entries = others := by
  induction entries generalizing others with
  | nil => exact (List.map_eq_nil_iff.1 hkeys.symm).symm
  | cons entry rest ih =>
    cases others with
    | nil => cases hkeys
    | cons other more =>
      obtain ⟨name, value⟩ := entry
      obtain ⟨otherName, otherValue⟩ := other
      obtain ⟨rfl, hrestKeys⟩ : name = otherName ∧ keys rest = keys more := List.cons.inj hkeys
      obtain ⟨hname, hrest⟩ := List.nodup_cons.1 hdistinct
      have hvalue : some value = some otherValue := by simpa using h name
      -- The first key is none of the later ones, under which the rest must agree.
      have htail : ∀ key, get? rest key = get? more key := by
        intro key
        by_cases hkey : name = key
        · subst hkey
          rw [(get?_eq_none_iff rest name).2 hname,
            (get?_eq_none_iff more name).2 (hrestKeys ▸ hname)]
        · simpa [hkey] using h key
      rw [Option.some.inj hvalue, ih hrestKeys hrest htail]

/-- Mapping the values, each with its key, maps what is looked up. -/
theorem get?_mapKeyed (f : String → α → β) (entries : Entries α) (key : String) :
    get? (entries.map fun (name, value) => (name, f name value)) key =
      (entries.get? key).map (f key) := by
  induction entries with
  | nil => rfl
  | cons entry rest ih =>
    obtain ⟨name, value⟩ := entry
    rw [List.map_cons, get?_cons, get?_cons, ih]
    split
    · rename_i hname
      rw [hname, Option.map_some]
    · rfl

/-- Mapping the values, each with its key, leaves the keys. -/
theorem keys_mapKeyed (f : String → α → β) (entries : Entries α) :
    keys (entries.map fun (name, value) => (name, f name value)) = entries.keys := by
  simp [keys, Function.comp_def]

/-- Mapping the values maps what is looked up. -/
theorem get?_map (f : α → β) (entries : Entries α) (key : String) :
    get? (entries.map fun (name, value) => (name, f value)) key = (entries.get? key).map f :=
  get?_mapKeyed (fun _ => f) entries key

/-- Mapping the values leaves the keys. -/
theorem keys_map (f : α → β) (entries : Entries α) :
    keys (entries.map fun (name, value) => (name, f value)) = entries.keys :=
  keys_mapKeyed (fun _ => f) entries

/-- An entry after a write is the written one or was there before. -/
theorem mem_insert {entries : Entries α} {key : String} {value : α} {entry : String × α}
    (h : entry ∈ entries.insert key value) : entry = (key, value) ∨ entry ∈ entries := by
  induction entries with
  | nil =>
    rw [insert, List.mem_singleton] at h
    exact .inl h
  | cons first rest ih =>
    obtain ⟨name, old⟩ := first
    rw [insert] at h
    -- The write ends at the first entry under the key, or goes on behind another one.
    split at h
    · rename_i hname
      rcases List.mem_cons.1 h with h | h
      · rw [hname] at h
        exact .inl h
      · exact .inr (List.mem_cons_of_mem _ h)
    · rcases List.mem_cons.1 h with h | h
      · rw [h]
        exact .inr List.mem_cons_self
      · exact (ih h).imp_right (List.mem_cons_of_mem _)

/-- An entry of one map laid over another is an entry of one of the two. -/
theorem mem_overlay {base top : Entries α} {entry : String × α}
    (h : entry ∈ base.overlay top) : entry ∈ top ∨ entry ∈ base := by
  -- Each entry of the upper map is written into the lower one in turn.
  induction top generalizing base with
  | nil => exact .inr h
  | cons first rest ih =>
    rw [overlay_cons] at h
    rcases ih h with h | h
    · exact .inl (List.mem_cons_of_mem _ h)
    · rcases mem_insert h with h | h
      · rw [h]
        exact .inl List.mem_cons_self
      · exact .inr h

/-- A write adds its key and no other. -/
theorem mem_keys_insert {entries : Entries α} {key name : String} {value : α} :
    name ∈ (entries.insert key value).keys ↔ name = key ∨ name ∈ entries.keys := by
  rw [keys_insert]
  split
  · rename_i h
    exact ⟨.inr, fun hname => hname.elim (fun e => e ▸ h) id⟩
  · rw [List.mem_append, List.mem_singleton, or_comm]

/-- A map laid over another adds its own new keys behind those of the other, in its order. -/
theorem keys_overlay (base : Entries α) {top : Entries α} (htop : top.keys.Nodup) :
    (base.overlay top).keys = base.keys ++ top.keys.filter fun key => key ∉ base.keys := by
  induction top generalizing base with
  | nil => exact (List.append_nil _).symm
  | cons entry rest ih =>
    obtain ⟨name, value⟩ := entry
    obtain ⟨hname, hrest⟩ := List.nodup_cons.1 htop
    have hcons : keys ((name, value) :: rest) = name :: keys rest := rfl
    rw [overlay_cons, ih _ hrest, hcons, List.filter_cons, keys_insert]
    by_cases hmem : name ∈ base.keys
    · simp [hmem]
    · -- The name is new, and it is none of the later keys, so that their test stays as it is.
      have hlater : (keys rest).filter (fun key => key ∉ base.keys ++ [name]) =
          (keys rest).filter fun key => key ∉ base.keys := by
        refine List.filter_congr fun key hkey => ?_
        have hne : key ≠ name := fun heq => hname (heq ▸ hkey)
        simp [hne]
      have htest : decide (name ∉ base.keys) = true := decide_eq_true hmem
      rw [if_neg hmem, if_pos htest, hlater, List.append_assoc, List.singleton_append]

/-- A write under a new key comes last. -/
theorem insert_of_notMem {entries : Entries α} {key : String}
    (h : key ∉ entries.keys) (value : α) :
    entries.insert key value = entries ++ [(key, value)] := by
  induction entries with
  | nil => rfl
  | cons entry rest ih =>
    obtain ⟨name, old⟩ := entry
    obtain ⟨hname, hrest⟩ := not_or.1 fun hor => h (List.mem_cons.2 hor)
    rw [insert, if_neg (Ne.symm hname), ih hrest, List.cons_append]

/-- A map laid over another with other keys has its entries behind those of the other. -/
theorem overlay_of_disjoint {base top : Entries α} (htop : top.keys.Nodup)
    (h : ∀ key ∈ top.keys, key ∉ base.keys) : base.overlay top = base ++ top := by
  induction top generalizing base with
  | nil => exact (List.append_nil base).symm
  | cons entry rest ih =>
    obtain ⟨name, value⟩ := entry
    obtain ⟨hname, hrest⟩ := List.nodup_cons.1 htop
    obtain ⟨hnew, hlater⟩ := List.forall_mem_cons.1 h
    have hinsert : base.insert name value = base ++ [(name, value)] := insert_of_notMem hnew value
    rw [overlay_cons, ih hrest, hinsert, List.append_assoc, List.singleton_append]
    -- The keys of the later entries are new after the first one, too.
    intro key hkey hmem
    rcases mem_keys_insert.1 hmem with rfl | hmem
    · exact hname hkey
    · exact hlater key hkey hmem

/-- A map laid over the empty one is itself. -/
theorem nil_overlay {top : Entries α} (htop : top.keys.Nodup) : overlay [] top = top :=
  overlay_of_disjoint htop fun _ _ => List.not_mem_nil

/-- The new keys of three maps are the same whichever two come first. -/
theorem newKeys_assoc (base middle top : List String) :
    base ++ middle.filter (fun key => key ∉ base) ++
        top.filter (fun key => key ∉ base ++ middle.filter fun key => key ∉ base) =
      base ++ (middle ++ top.filter fun key => key ∉ middle).filter fun key => key ∉ base := by
  have hnew : (top.filter fun key => key ∉ middle).filter (fun key => key ∉ base) =
      top.filter fun key => key ∉ base ++ middle.filter fun key => key ∉ base := by
    rw [List.filter_filter]
    refine List.filter_congr fun key _ => ?_
    by_cases hkey : key ∈ base <;> simp [hkey]
  rw [List.filter_append, hnew, List.append_assoc]

/-- A map has no new keys over what it was laid over before. -/
theorem newKeys_again (base top : List String) :
    top.filter (fun key => key ∉ base ++ top.filter fun key => key ∉ base) = [] := by
  refine List.filter_eq_nil_iff.2 fun key hkey => ?_
  by_cases hold : key ∈ base <;> simp [hkey, hold]

/-- Maps may be laid over each other two at a time from either side. -/
theorem overlay_assoc {base middle top : Entries α} (hbase : base.keys.Nodup)
    (hmiddle : middle.keys.Nodup) (htop : top.keys.Nodup) :
    (base.overlay middle).overlay top = base.overlay (middle.overlay top) := by
  have hupper := nodup_overlay hmiddle top
  refine eq_of_get? ?keys (nodup_overlay (nodup_overlay hbase middle) top) fun key => ?get
  case keys =>
    rw [keys_overlay _ htop, keys_overlay _ hmiddle, keys_overlay _ hupper, keys_overlay _ htop]
    exact newKeys_assoc base.keys middle.keys top.keys
  case get =>
    rw [get?_overlay _ htop, get?_overlay _ hmiddle, get?_overlay _ hupper, get?_overlay _ htop,
      Option.or_assoc]

/-- Laying a map over another once more changes nothing. -/
theorem overlay_again {base top : Entries α} (hbase : base.keys.Nodup) (htop : top.keys.Nodup) :
    (base.overlay top).overlay top = base.overlay top := by
  refine eq_of_get? ?keys (nodup_overlay (nodup_overlay hbase top) top) fun key => ?get
  case keys =>
    rw [keys_overlay _ htop, keys_overlay _ htop, newKeys_again, List.append_nil]
  case get =>
    rw [get?_overlay _ htop, get?_overlay _ htop, ← Option.or_assoc, Option.or_self]

/-- Entries in the order of their keys are the same entries. -/
theorem sorted_perm (entries : Entries α) : (sorted entries).Perm entries :=
  List.mergeSort_perm _ _

/-- Entries in the order of their keys rise by code points. -/
theorem pairwise_sorted (entries : Entries α) :
    (sorted entries).Pairwise fun a b => a.1 ≤ b.1 :=
  pairwise_mergeSort_of_text Prod.fst entries

end TransformPreset.Entries
