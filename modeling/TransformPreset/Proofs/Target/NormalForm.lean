import TransformPreset.Proofs.Target.QuerySet

/-!
# Releases in normal form

The resolver that needs no database answers with releases of one spelling: a name of small letters
and underscores, one space, and a version that starts with a digit and holds no comma and no blank
(`IsNormalRelease`). There is one release for each fragment of the queries that is not blank, in
order. A release of that spelling is one fragment of two words in lower case, so it is spelled as
itself (`releaseText_of_normal`), and releases that are resolved again stay as they are
(`literalReleases_normalForm`).
-/

namespace TransformPreset

/-- The texts of releases in normal form. -/
inductive IsNormalRelease : List Char → Prop
  /-- A name, one space and a version, which starts with a digit. -/
  | intro {name version : List Char} {first : Char} (hne : name ≠ [])
    (hname : ∀ c ∈ name, ('a' ≤ c ∧ c ≤ 'z') ∨ c = '_') (hfirst : isDigit first = true)
    (hversion : ∀ c ∈ first :: version, c ≠ ',' ∧ isBlank c = false) :
    IsNormalRelease (name ++ ' ' :: first :: version)

/-- What the releases are to be that queries resolve to. -/
structure NormalForm (queries releases : List String) : Prop where
  /-- Each of them is in normal form. -/
  normal : ∀ release ∈ releases, IsNormalRelease release.toList
  /-- They are, one for one and in order, the words of the fragments that are not blank, with one
  space between them and in lower case. -/
  one_each : releases =
    ((fragments queries).filter fun fragment => fragment.any fun c => !isBlank c).map
      fun fragment => String.ofList (lowerCase ([' '].intercalate (words fragment)))
  /-- Resolved again, they stay as they are. -/
  again : literalReleases releases = .ok releases

/-! ## Blank fragments -/

variable {text fragment : List Char}

/-- Only the empty text is empty in lower case. -/
theorem lowerCase_eq_nil_iff : lowerCase text = [] ↔ text = [] := by
  cases text with
  | nil => exact iff_of_true rfl rfl
  | cons c rest =>
    refine iff_of_false (fun h => ?_) (List.cons_ne_nil c rest)
    rw [lowerCase, lowerFrom, List.append_eq_nil_iff, lowerOne] at h
    obtain ⟨hone, -⟩ := h
    split at hone
    · cases hone
    · split at hone <;> cases hone

/-- A fragment spells nothing exactly if it is blank. -/
theorem releaseText_eq_nil_iff : releaseText fragment = [] ↔ ∀ c ∈ fragment, isBlank c = true := by
  rw [releaseText, lowerCase_eq_nil_iff, ← words_eq_nil_iff]
  cases hwords : words fragment with
  | nil => exact iff_of_true rfl rfl
  | cons word more =>
    -- A word is not empty, so what starts with one is not either.
    have hmem : word ∈ words fragment := by
      rw [hwords]
      exact List.mem_cons_self
    have hword : word ≠ [] := (words_noBlank word hmem).1
    refine iff_of_false (fun h => ?_) (List.cons_ne_nil word more)
    cases more with
    | nil => exact hword (by simpa using h)
    | cons next others => exact hword (by simp [List.intercalate] at h)

/-- So a fragment spells something exactly if a character of it is not blank. -/
theorem isEmpty_releaseText (fragment : List Char) :
    (!(releaseText fragment).isEmpty) = fragment.any fun c => !isBlank c := by
  rw [Bool.eq_iff_iff, Bool.not_eq_true', List.isEmpty_eq_false_iff, Ne, releaseText_eq_nil_iff,
    List.any_eq_true]
  simp

/-! ## The texts that are releases -/

/-- No wide blank is a word character. -/
theorem wideBlanks_notWord : ∀ blank ∈ wideBlanks, ∀ word ∈ wideWords,
    word.2 < blank.1 ∨ blank.2 < word.1 := by
  decide +kernel

/-- A word character is no blank. -/
theorem isBlank_eq_false_of_isWord {c : Char} (h : isWord c = true) : isBlank c = false := by
  rw [← Bool.not_eq_true]
  intro hblank
  unfold isWord at h
  unfold isBlank at hblank
  split at h
  · rename_i hplain
    rw [if_pos hplain, Bool.or_eq_true, Bool.and_eq_true, Bool.and_eq_true, decide_eq_true_eq,
      decide_eq_true_eq, decide_eq_true_eq, decide_eq_true_eq] at hblank
    have hlow : ∀ n < 0x21, ((Char.ofNat n).isAlphanum || Char.ofNat n == '_') = false := by decide
    have hword := hlow c.toNat (by omega)
    rw [Char.ofNat_toNat, h] at hword
    cases hword
  · rename_i hwide
    rw [if_neg hwide] at hblank
    obtain ⟨blank, hblankMem, hlow, hhigh⟩ := CharClass.has_iff.1 hblank
    obtain ⟨word, hwordMem, hfirst, hlast⟩ := CharClass.has_iff.1 h
    have := wideBlanks_notWord blank hblankMem word hwordMem
    omega

/-- A character of a version is no comma and no blank. -/
theorem not_separator_of_isVersionChar {c : Char} (h : isVersionChar c = true) :
    c ≠ ',' ∧ isBlank c = false := by
  unfold isVersionChar at h
  rw [Bool.or_eq_true, Bool.or_eq_true, beq_iff_eq, beq_iff_eq] at h
  rcases h with (hword | rfl) | rfl
  · refine ⟨?_, isBlank_eq_false_of_isWord hword⟩
    rintro rfl
    exact absurd hword (by decide)
  · exact ⟨by decide, by decide⟩
  · exact ⟨by decide, by decide⟩

/-- The characters of names are the small letters and the underscore. -/
theorem letter_of_isNameChar {c : Char} (h : isNameChar c = true) :
    ('a' ≤ c ∧ c ≤ 'z') ∨ c = '_' := by
  unfold isNameChar at h
  rw [Bool.or_eq_true, Bool.and_eq_true, decide_eq_true_eq, decide_eq_true_eq, beq_iff_eq] at h
  exact h

/-- Neither is a comma or a blank. -/
theorem not_separator_of_letter {c : Char} (h : ('a' ≤ c ∧ c ≤ 'z') ∨ c = '_') :
    c ≠ ',' ∧ isBlank c = false := by
  rcases h with ⟨hlow, hhigh⟩ | rfl
  · have hlowNat : 0x61 ≤ c.toNat := hlow
    have hhighNat : c.toNat ≤ 0x7A := hhigh
    constructor
    · rintro rfl
      exact absurd hlowNat (by decide)
    · have hplain : isPlain c = true := decide_eq_true (by omega)
      rw [isBlank, if_pos hplain, Bool.or_eq_false_iff, Bool.and_eq_false_iff,
        Bool.and_eq_false_iff]
      exact ⟨.inr (decide_eq_false (by omega)), .inr (decide_eq_false (by omega))⟩
  · exact ⟨by decide, by decide⟩

/-- A text that passes the test of releases is in normal form. -/
theorem isNormalRelease_of_isRelease (h : isRelease text = true) : IsNormalRelease text := by
  have hsplit := List.takeWhile_append_dropWhile (p := isNameChar) (l := text)
  unfold isRelease at h
  split at h
  · rename_i first rest hrest
    rw [hrest] at hsplit
    rw [Bool.and_eq_true, Bool.and_eq_true, Bool.not_eq_true', List.isEmpty_eq_false_iff,
      List.all_eq_true] at h
    obtain ⟨⟨hne, hfirst⟩, hversion⟩ := h
    rw [← hsplit]
    refine .intro hne ?_ hfirst (List.forall_mem_cons.2 ⟨⟨?_, ?_⟩, ?_⟩)
    · exact fun c hc =>
        letter_of_isNameChar (List.all_eq_true.1 List.all_takeWhile c hc)
    · rintro rfl
      exact absurd hfirst (by decide)
    · exact isBlank_eq_false_of_isDigit hfirst
    · exact fun c hc => not_separator_of_isVersionChar (hversion c hc)
  · cases h

namespace IsNormalRelease

/-- No comma is in a release in normal form. -/
theorem comma_notMem (h : IsNormalRelease text) : ',' ∉ text := by
  obtain ⟨-, hname, -, hversion⟩ := h
  intro hmem
  rcases List.mem_append.1 hmem with hmem | hmem
  · exact (not_separator_of_letter (hname _ hmem)).1 rfl
  · rcases List.mem_cons.1 hmem with hspace | hmem
    · exact absurd hspace (by decide)
    · exact (hversion _ hmem).1 rfl

/-- The words of a release in normal form are its name and its version, and make it up again. -/
theorem intercalate_words (h : IsNormalRelease text) : [' '].intercalate (words text) = text := by
  obtain ⟨hne, hname, -, hversion⟩ := h
  rw [words_append_blank hne (fun c hc => (not_separator_of_letter (hname c hc)).2) (by decide),
    words_of_noBlank (List.cons_ne_nil _ _) fun c hc => (hversion c hc).2]
  simp [List.intercalate]

end IsNormalRelease

/-- What is spelled in normal form is spelled as itself. -/
theorem releaseText_of_normal (h : IsNormalRelease (releaseText fragment)) :
    releaseText (releaseText fragment) = releaseText fragment := by
  conv_lhs => rw [releaseText, h.intercalate_words]
  exact lowerCase_lowerCase _

/-! ## Releases that are resolved again -/

variable {queries releases : List String}

/-- The fragments of queries without commas are the queries. -/
theorem fragments_of_noComma (h : ∀ query ∈ queries, ',' ∉ query.toList) :
    fragments queries = queries.map String.toList := by
  rw [fragments, List.map_eq_flatMap]
  exact List.flatMap_congr fun query hquery => pieces_of_notMem (h query hquery)

/-- The releases that queries resolve to are in normal form. -/
theorem literalReleases_normalForm (h : literalReleases queries = .ok releases) :
    NormalForm queries releases := by
  obtain ⟨hall, hreleases⟩ := literalReleases_ok_iff.1 h
  have hnormal : ∀ text ∈ spelledReleases queries, IsNormalRelease text := fun text htext =>
    isNormalRelease_of_isRelease (hall text htext)
  have htexts : releases.map String.toList = spelledReleases queries := by
    rw [hreleases, List.map_map]
    exact (List.map_congr_left fun text _ => String.toList_ofList).trans (List.map_id _)
  have hnormalRelease : ∀ release ∈ releases, IsNormalRelease release.toList :=
    fun release hrelease => hnormal _ (htexts ▸ List.mem_map_of_mem hrelease)
  refine ⟨hnormalRelease, ?_, ?_⟩
  · rw [hreleases, spelledReleases, List.filter_map, List.map_map]
    refine congrArg (List.map _) (List.filter_congr fun fragment _ => ?_)
    exact isEmpty_releaseText fragment
  · -- The releases spell what the queries spell, since each is one fragment and spells itself.
    have hspelled : spelledReleases releases = spelledReleases queries := by
      rw [spelledReleases, fragments_of_noComma fun release hrelease =>
        (hnormalRelease release hrelease).comma_notMem, htexts]
      have hself : (spelledReleases queries).map releaseText = spelledReleases queries := by
        refine (List.map_congr_left fun text htext => ?_).trans (List.map_id _)
        obtain ⟨fragment, -, rfl⟩ := List.mem_map.1 (List.mem_filter.1 htext).1
        exact releaseText_of_normal (hnormal _ htext)
      rw [hself]
      exact List.filter_eq_self.2 fun text htext => (List.mem_filter.1 htext).2
    rw [literalReleases_ok_iff, hspelled]
    exact ⟨hall, hreleases⟩

/-- Blank fragments are left out, and blanks, capitals and a sigma at the end of a version are put
into the one spelling. -/
theorem literalReleases_spelled :
    literalReleases ["Chrome  50,, iOS_SAF 10.0-10.2", " IE\t8aΣ ,"] =
        .ok ["chrome 50", "ios_saf 10.0-10.2", "ie 8aς"] ∧
      NormalForm ["Chrome  50,, iOS_SAF 10.0-10.2", " IE\t8aΣ ,"]
        ["chrome 50", "ios_saf 10.0-10.2", "ie 8aς"] := by
  have h : literalReleases ["Chrome  50,, iOS_SAF 10.0-10.2", " IE\t8aΣ ,"] =
      .ok ["chrome 50", "ios_saf 10.0-10.2", "ie 8aς"] := by
    exact ok_of_toOption (by decide +kernel)
  exact ⟨h, literalReleases_normalForm h⟩

end TransformPreset
