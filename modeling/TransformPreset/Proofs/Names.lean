import Mathlib.Data.List.Basic
import TransformPreset.Names

/-!
# Names in order

Sorting by texts leaves the same items, in an order in which the texts rise. A list of names that
rises is determined by which names it has how often, so sorted names do not tell in which order they
were given (`sortNames_perm`).

Distinct names come in the order of their first places (`atFirstPlaces_distinct`), and there is one
such order. What comes first keeps its order when names are taken out (`idxOf_filter_lt_iff`) and
when names are added behind (`AtFirstPlaces.append`).
-/

namespace TransformPreset

/-! ## Rising names -/

/-- Items that are sorted by texts rise by the code points of these texts. -/
theorem pairwise_mergeSort_of_text {α : Type} (text : α → String) (items : List α) :
    (items.mergeSort fun a b => !decide (text b < text a)).Pairwise fun a b => text a ≤ text b := by
  let le : α → α → Bool := fun a b => !decide (text b < text a)
  have hle : ∀ a b, le a b = true ↔ text a ≤ text b := by
    intro a b
    rw [Bool.not_eq_true', decide_eq_false_iff_not, String.not_lt]
  have hsorted : (items.mergeSort le).Pairwise fun a b => le a b = true := by
    refine List.pairwise_mergeSort ?trans ?total items
    case trans =>
      intro a b c hab hbc
      exact (hle a c).2 (String.le_trans ((hle a b).1 hab) ((hle b c).1 hbc))
    case total =>
      intro a b
      rw [Bool.or_eq_true, hle, hle]
      exact String.le_total (text a) (text b)
  exact hsorted.imp fun hab => (hle _ _).1 hab

/-- Whether a list has the names of another one, in rising order. -/
structure IsSorted (names sorted : List String) : Prop where
  /-- The names are the same. -/
  perm : sorted.Perm names
  /-- They rise by code points. -/
  rises : sorted.Pairwise (· ≤ ·)

/-- Sorted names are the names in rising order. -/
theorem isSorted_sortNames (names : List String) : IsSorted names (sortNames names) where
  perm := List.mergeSort_perm _ _
  rises := pairwise_mergeSort_of_text id names

/-- There is one rising order. -/
theorem IsSorted.unique {names sorted others : List String} (h : IsSorted names sorted)
    (h' : IsSorted names others) : others = sorted :=
  (h'.perm.trans h.perm.symm).eq_of_pairwise
    (fun _ _ _ _ hab hba => String.le_antisymm hab hba) h'.rises h.rises

/-- Sorted names do not tell in which order they were given. -/
theorem sortNames_perm {names others : List String} (h : names.Perm others) :
    sortNames names = sortNames others := by
  have hnames := isSorted_sortNames names
  have hothers : IsSorted others (sortNames names) := ⟨hnames.perm.trans h, hnames.rises⟩
  exact (isSorted_sortNames others).unique hothers

/-! ## First places -/

/-- A list that has the names of another one, each once, in the order of their first places. -/
structure AtFirstPlaces (names placed : List String) : Prop where
  /-- The names are the same. -/
  mem : ∀ name, name ∈ placed ↔ name ∈ names
  /-- Their first places rise. -/
  rises : placed.Pairwise fun a b => names.idxOf a < names.idxOf b

/-- The first places of the names that were not seen before rise. -/
theorem pairwise_firstPlaces (seen names : List String) :
    (firstPlaces seen names).Pairwise fun a b => names.idxOf a < names.idxOf b := by
  induction names generalizing seen with
  | nil => exact .nil
  | cons n rest ih =>
    -- A first name that is passed over moves the first places of all others by one.
    have hlater : ∀ others : List String, n ∈ others →
        (firstPlaces others rest).Pairwise fun a b =>
          (n :: rest).idxOf a < (n :: rest).idxOf b := by
      intro others hn
      have hne : ∀ name ∈ firstPlaces others rest, n ≠ name := by
        rintro name hname rfl
        exact (mem_firstPlaces.1 hname).2 hn
      refine (ih others).imp_of_mem fun {a b} ha hb hlt => ?_
      rw [List.idxOf_cons_ne rest (hne a ha), List.idxOf_cons_ne rest (hne b hb)]
      exact Nat.succ_lt_succ hlt
    rw [firstPlaces]
    split
    · rename_i hseen
      exact hlater seen (List.contains_iff_mem.1 hseen)
    · refine List.pairwise_cons.2 ⟨fun b hb => ?_, hlater _ List.mem_cons_self⟩
      have hne : n ≠ b := by
        rintro rfl
        exact (mem_firstPlaces.1 hb).2 List.mem_cons_self
      rw [List.idxOf_cons_self, List.idxOf_cons_ne rest hne]
      exact Nat.succ_pos _

/-- The distinct names of a list stand at their first places. -/
theorem atFirstPlaces_distinct (names : List String) : AtFirstPlaces names (distinct names) where
  mem _ := mem_distinct
  rises := pairwise_firstPlaces [] names

namespace AtFirstPlaces

variable {names placed : List String}

/-- No name stands at two first places. -/
theorem nodup (h : AtFirstPlaces names placed) : placed.Nodup := by
  refine h.rises.imp fun hlt heq => ?_
  rw [heq] at hlt
  exact Nat.lt_irrefl _ hlt

/-- There is one order of first places. -/
theorem unique (h : AtFirstPlaces names placed) {others : List String}
    (h' : AtFirstPlaces names others) : others = placed := by
  have hperm : others.Perm placed :=
    (List.perm_ext_iff_of_nodup h'.nodup h.nodup).2 fun name =>
      (h'.mem name).trans (h.mem name).symm
  exact hperm.eq_of_pairwise (fun _ _ _ _ hab hba => absurd hab (Nat.lt_asymm hba)) h'.rises h.rises

/-- A name comes before another one exactly if its first place does. -/
theorem idxOf_lt_iff (h : AtFirstPlaces names placed) {a b : String} (ha : a ∈ names)
    (hb : b ∈ names) : placed.idxOf a < placed.idxOf b ↔ names.idxOf a < names.idxOf b := by
  have hrises : ∀ {c d : String}, c ∈ names → d ∈ names → placed.idxOf c < placed.idxOf d →
      names.idxOf c < names.idxOf d := by
    intro c d hc hd hlt
    have hclt := List.idxOf_lt_length_iff.2 ((h.mem c).2 hc)
    have hdlt := List.idxOf_lt_length_iff.2 ((h.mem d).2 hd)
    have hplaces := List.pairwise_iff_getElem.1 h.rises _ _ hclt hdlt hlt
    rwa [List.getElem_idxOf, List.getElem_idxOf] at hplaces
  refine ⟨hrises ha hb, fun hlt => ?_⟩
  rcases Nat.lt_trichotomy (placed.idxOf a) (placed.idxOf b) with hbefore | hsame | hafter
  · exact hbefore
  · rw [(List.idxOf_inj ((h.mem a).2 ha)).1 hsame] at hlt
    exact absurd hlt (Nat.lt_irrefl _)
  · exact absurd hlt (Nat.lt_asymm (hrises hb ha hafter))

end AtFirstPlaces

/-- Names that are kept come in the same order as before others were taken out. -/
theorem idxOf_filter_lt_iff {keeps : String → Bool} {names : List String} {a b : String}
    (ha : keeps a = true) (hb : keeps b = true) :
    (names.filter keeps).idxOf a < (names.filter keeps).idxOf b ↔
      names.idxOf a < names.idxOf b := by
  induction names with
  | nil => rfl
  | cons n rest ih =>
    rw [List.filter_cons]
    split
    · rw [List.idxOf_cons, List.idxOf_cons, List.idxOf_cons, List.idxOf_cons]
      cases n == a <;> cases n == b <;> simp [ih]
    · rename_i hn
      have hne : ∀ {c : String}, keeps c = true → n ≠ c := by
        rintro c hc rfl
        exact hn hc
      rw [ih, List.idxOf_cons_ne rest (hne ha), List.idxOf_cons_ne rest (hne hb)]
      exact Nat.succ_lt_succ_iff.symm

/-- First places of two lists in sequence are those of the first one, followed by those of the names
of the second one that are new. -/
theorem AtFirstPlaces.append {names more placed new : List String} (h : AtFirstPlaces names placed)
    (h' : AtFirstPlaces (more.filter fun name => name ∉ names) new) :
    AtFirstPlaces (names ++ more) (placed ++ new) where
  mem name := by
    rw [List.mem_append, List.mem_append, h.mem, h'.mem, List.mem_filter, decide_eq_true_eq]
    by_cases hname : name ∈ names <;> simp [hname]
  rises := by
    have hnew : ∀ {name : String}, name ∈ new → name ∉ names := by
      intro name hname
      exact of_decide_eq_true (List.mem_filter.1 ((h'.mem name).1 hname)).2
    refine List.pairwise_append.2 ⟨?old, ?new, ?across⟩
    case old =>
      refine h.rises.imp_of_mem fun ha hb hlt => ?_
      rwa [List.idxOf_append_of_mem ((h.mem _).1 ha), List.idxOf_append_of_mem ((h.mem _).1 hb)]
    case new =>
      refine h'.rises.imp_of_mem fun ha hb hlt => ?_
      rw [List.idxOf_append, if_neg (hnew ha), List.idxOf_append, if_neg (hnew hb)]
      exact Nat.add_lt_add_right ((idxOf_filter_lt_iff (decide_eq_true (hnew ha))
        (decide_eq_true (hnew hb))).1 hlt) _
    case across =>
      intro a ha b hb
      have hold := (h.mem a).1 ha
      rw [List.idxOf_append_of_mem hold, List.idxOf_append, if_neg (hnew hb)]
      exact Nat.lt_add_left _ (List.idxOf_lt_length_iff.2 hold)

/-- The distinct names of two lists are those of the first one, followed by those of the second one
that are new. -/
theorem distinct_append (names more : List String) :
    distinct (names ++ more) =
      distinct names ++ distinct (more.filter fun name => name ∉ names) :=
  ((atFirstPlaces_distinct names).append (atFirstPlaces_distinct _)).unique
    (atFirstPlaces_distinct _)

end TransformPreset
