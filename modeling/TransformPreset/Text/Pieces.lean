import TransformPreset.Text.Blank

/-!
# Pieces of a text

Cutting a text at a separator, at its first separator only, or at its blanks, and trimming it.
Cutting loses nothing: `pieces_join` puts the pieces together again, and `partitionAt_append` the
two sides of the first separator. `words_noBlank` says that a word holds no blank, and
`words_append_blank` that words are taken one after another. `hasPart` looks for a part of a text.
-/

namespace TransformPreset

/-! ## All separators -/

/-- The pieces between the separators: one more than there are separators. -/
def pieces (sep : Char) : List Char → List (List Char)
  | [] => [[]]
  | c :: rest =>
    if c = sep then [] :: pieces sep rest
    else
      match pieces sep rest with
      | [] => [[c]]
      | piece :: more => (c :: piece) :: more

theorem pieces_ne_nil (sep : Char) (text : List Char) : pieces sep text ≠ [] := by
  cases text with
  | nil => simp [pieces]
  | cons c rest =>
    simp only [pieces]
    split
    · simp
    · split <;> simp

theorem pieces_join (sep : Char) (text : List Char) :
    [sep].intercalate (pieces sep text) = text := by
  induction text with
  | nil => simp [pieces]
  | cons c rest ih =>
    simp only [pieces]
    split
    · rename_i h
      cases hp : pieces sep rest with
      | nil => exact absurd hp (pieces_ne_nil sep rest)
      | cons piece more =>
        rw [hp] at ih
        simp [List.intercalate, List.intersperse, ← ih, h]
    · split
      · rename_i h
        exact absurd h (pieces_ne_nil sep rest)
      · rename_i piece more h
        rw [h] at ih
        rw [← ih]
        cases more <;> simp [List.intercalate, List.intersperse]

/-- A text without a separator is its one piece. -/
theorem pieces_of_notMem {sep : Char} {text : List Char} (h : sep ∉ text) :
    pieces sep text = [text] := by
  induction text with
  | nil => rfl
  | cons c rest ih =>
    rw [List.mem_cons, not_or] at h
    rw [pieces, if_neg (Ne.symm h.1), ih h.2]

/-- Two texts with a separator between them have the pieces of both. -/
theorem pieces_append (sep : Char) (text after : List Char) :
    pieces sep (text ++ sep :: after) = pieces sep text ++ pieces sep after := by
  induction text with
  | nil => simp [pieces]
  | cons c rest ih =>
    rw [List.cons_append, pieces, pieces, ih]
    split
    · rfl
    · cases h : pieces sep rest with
      | nil => exact absurd h (pieces_ne_nil sep rest)
      | cons piece more => rfl

/-- Texts with separators between them have the pieces of all of them. -/
theorem pieces_intercalate (sep : Char) {texts : List (List Char)} (h : texts ≠ []) :
    pieces sep ([sep].intercalate texts) = texts.flatMap (pieces sep) := by
  induction texts with
  | nil => exact absurd rfl h
  | cons text rest ih =>
    cases rest with
    | nil => simp
    | cons next more =>
      have hjoined : [sep].intercalate (text :: next :: more) =
          text ++ sep :: [sep].intercalate (next :: more) := by
        simp [List.intercalate]
      rw [hjoined, pieces_append, ih (List.cons_ne_nil _ _), ← List.flatMap_cons]

/-! ## Runs of a class -/

/-- Characters of a class are the longest start of it, unless another one follows. -/
theorem takeWhile_append_of_head? {p : Char → Bool} {start rest : List Char}
    (hstart : ∀ c ∈ start, p c = true) (hrest : ∀ c ∈ rest.head?, p c = false) :
    (start ++ rest).takeWhile p = start := by
  rw [List.takeWhile_append_of_pos hstart]
  cases rest with
  | nil => exact List.append_nil start
  | cons c more =>
    rw [List.takeWhile_cons_of_neg, List.append_nil]
    rw [hrest c rfl]
    exact Bool.false_ne_true

/-- What follows them is left. -/
theorem dropWhile_append_of_head? {p : Char → Bool} {start rest : List Char}
    (hstart : ∀ c ∈ start, p c = true) (hrest : ∀ c ∈ rest.head?, p c = false) :
    (start ++ rest).dropWhile p = rest := by
  rw [List.dropWhile_append_of_pos hstart]
  cases rest with
  | nil => rfl
  | cons c more =>
    refine List.dropWhile_cons_of_neg ?_
    rw [hrest c rfl]
    exact Bool.false_ne_true

/-- What follows the longest start of a class does not start with a character of it. -/
theorem head?_dropWhile {p : Char → Bool} (text : List Char) :
    ∀ c ∈ (text.dropWhile p).head?, p c = false := by
  intro c hc
  have hnot := List.head?_dropWhile_not p text
  rw [Option.mem_def.1 hc] at hnot
  simpa using hnot

/-! ## The first separator -/

/-- The text before the first separator, and the text after it if there is a separator. -/
def partitionAt (sep : Char) (text : List Char) : List Char × Option (List Char) :=
  (text.takeWhile (· != sep), (text.dropWhile (· != sep)).tail?)

theorem partitionAt_append {sep : Char} {text before after : List Char}
    (h : partitionAt sep text = (before, some after)) : text = before ++ sep :: after := by
  simp only [partitionAt, Prod.mk.injEq] at h
  obtain ⟨rfl, h⟩ := h
  cases hd : text.dropWhile (· != sep) with
  | nil => simp [hd] at h
  | cons c rest =>
    have hc : c = sep := by
      have := List.head?_dropWhile_not (· != sep) text
      simpa [hd] using this
    rw [hd, List.tail?_cons, Option.some.injEq] at h
    have hsplit := List.takeWhile_append_dropWhile (p := (· != sep)) (l := text)
    rw [hd, hc, h] at hsplit
    exact hsplit.symm

/-- A text is cut at its first separator. -/
theorem partitionAt_eq_some_iff {sep : Char} {text before after : List Char} :
    partitionAt sep text = (before, some after) ↔
      text = before ++ sep :: after ∧ sep ∉ before := by
  constructor
  · intro h
    refine ⟨partitionAt_append h, ?_⟩
    have hbefore : text.takeWhile (· != sep) = before := congrArg Prod.fst h
    have hall := List.all_takeWhile (p := (· != sep)) (l := text)
    rw [hbefore, List.all_eq_true] at hall
    intro hmem
    exact bne_iff_ne.1 (hall sep hmem) rfl
  · rintro ⟨rfl, hnotMem⟩
    have hbefore : ∀ c ∈ before, (c != sep) = true := by
      intro c hc
      rw [bne_iff_ne]
      exact fun heq => hnotMem (heq ▸ hc)
    simp [partitionAt, List.takeWhile_append_of_pos hbefore, List.dropWhile_append_of_pos hbefore]

/-- A text without a separator is not cut. -/
theorem partitionAt_eq_none_iff {sep : Char} {text before : List Char} :
    partitionAt sep text = (before, none) ↔ text = before ∧ sep ∉ text := by
  rw [partitionAt, Prod.mk.injEq]
  constructor
  · rintro ⟨hbefore, hnone⟩
    have hdrop : text.dropWhile (· != sep) = [] := by
      cases hd : text.dropWhile (· != sep) with
      | nil => rfl
      | cons c rest => simp [hd] at hnone
    have hsplit := List.takeWhile_append_dropWhile (p := (· != sep)) (l := text)
    rw [hdrop, List.append_nil] at hsplit
    have hall := List.all_takeWhile (p := (· != sep)) (l := text)
    rw [hsplit, List.all_eq_true] at hall
    exact ⟨hsplit.symm.trans hbefore, fun hmem => bne_iff_ne.1 (hall sep hmem) rfl⟩
  · rintro ⟨rfl, hnotMem⟩
    have hall : ∀ c ∈ text, (c != sep) = true := by
      intro c hc
      rw [bne_iff_ne]
      exact fun heq => hnotMem (heq ▸ hc)
    have htake : text.takeWhile (· != sep) = text := by
      rw [← List.append_nil text, List.takeWhile_append_of_pos hall, List.takeWhile_nil]
    have hdrop : text.dropWhile (· != sep) = [] := by
      rw [← List.append_nil text, List.dropWhile_append_of_pos hall, List.dropWhile_nil]
    rw [htake, hdrop]
    exact ⟨rfl, rfl⟩

/-! ## Words and parts -/

/-- Cuts what follows an unfinished word, given that word's characters last first. -/
def wordsFrom (current : List Char) : List Char → List (List Char)
  | [] => if current.isEmpty then [] else [current.reverse]
  | c :: rest =>
    if isBlank c then (if current.isEmpty then [] else [current.reverse]) ++ wordsFrom [] rest
    else wordsFrom (c :: current) rest

/-- The longest runs of characters that are not blanks. -/
def words (text : List Char) : List (List Char) :=
  wordsFrom [] text

theorem wordsFrom_noBlank {current text : List Char} (hcur : ∀ c ∈ current, isBlank c = false) :
    ∀ word ∈ wordsFrom current text, word ≠ [] ∧ ∀ c ∈ word, isBlank c = false := by
  induction text generalizing current with
  | nil =>
    intro word hw
    simp only [wordsFrom] at hw
    split at hw
    · simp at hw
    · rename_i hne
      simp only [List.mem_singleton] at hw
      subst hw
      exact ⟨by simpa using hne, by simpa using hcur⟩
  | cons c rest ih =>
    intro word hw
    simp only [wordsFrom] at hw
    split at hw
    · rw [List.mem_append] at hw
      rcases hw with hw | hw
      · split at hw
        · simp at hw
        · rename_i hne
          simp only [List.mem_singleton] at hw
          subst hw
          exact ⟨by simpa using hne, by simpa using hcur⟩
      · exact ih (by simp) word hw
    · rename_i hc
      refine ih ?_ word hw
      intro d hd
      rcases List.mem_cons.1 hd with rfl | hd
      · simpa using hc
      · exact hcur d hd

theorem words_noBlank {text : List Char} :
    ∀ word ∈ words text, word ≠ [] ∧ ∀ c ∈ word, isBlank c = false :=
  wordsFrom_noBlank (by simp)

/-- Characters that are not blank go on with the word before them. -/
theorem wordsFrom_append {word : List Char} (h : ∀ c ∈ word, isBlank c = false)
    (current rest : List Char) :
    wordsFrom current (word ++ rest) = wordsFrom (word.reverse ++ current) rest := by
  induction word generalizing current with
  | nil => rfl
  | cons c more ih =>
    have hc : ¬isBlank c = true := by
      rw [h c List.mem_cons_self]
      exact Bool.false_ne_true
    rw [List.cons_append, wordsFrom, if_neg hc, ih fun d hd => h d (List.mem_cons_of_mem c hd),
      List.reverse_cons, List.append_assoc, List.singleton_append]

/-- Characters that are not blank are one word. -/
theorem words_of_noBlank {word : List Char} (hne : word ≠ []) (h : ∀ c ∈ word, isBlank c = false) :
    words word = [word] := by
  have hword := wordsFrom_append h [] []
  rw [List.append_nil, List.append_nil] at hword
  rw [words, hword, wordsFrom, List.isEmpty_reverse, if_neg (by simpa using hne),
    List.reverse_reverse]

/-- They are the first word of a text that goes on with a blank. -/
theorem words_append_blank {word : List Char} (hne : word ≠ []) (h : ∀ c ∈ word, isBlank c = false)
    {blank : Char} (hblank : isBlank blank = true) (rest : List Char) :
    words (word ++ blank :: rest) = word :: words rest := by
  rw [words, wordsFrom_append h, List.append_nil, wordsFrom, if_pos hblank, List.isEmpty_reverse,
    if_neg (by simpa using hne), List.reverse_reverse]
  rfl

/-- There is no word exactly if there is nothing but blanks. -/
theorem wordsFrom_eq_nil_iff {current text : List Char} :
    wordsFrom current text = [] ↔ current = [] ∧ ∀ c ∈ text, isBlank c = true := by
  induction text generalizing current with
  | nil => cases current <;> simp [wordsFrom]
  | cons c rest ih =>
    rw [wordsFrom, List.forall_mem_cons]
    split
    · rename_i hc
      cases current <;> simp [ih, hc]
    · rename_i hc
      simp [ih, hc]

theorem words_eq_nil_iff {text : List Char} :
    words text = [] ↔ ∀ c ∈ text, isBlank c = true :=
  wordsFrom_eq_nil_iff.trans (and_iff_right rfl)

/-- Whether a text holds another one as a part. -/
def hasPart (part : List Char) : List Char → Bool
  | [] => part.isEmpty
  | c :: rest => part.isPrefixOf (c :: rest) || hasPart part rest

/-- The text without the characters of a class at its two ends. -/
def trimBy (isEdge : Char → Bool) (text : List Char) : List Char :=
  (((text.dropWhile isEdge).reverse).dropWhile isEdge).reverse

/-- The text without the blanks at its two ends. -/
def trim (text : List Char) : List Char :=
  trimBy isBlank text

end TransformPreset
