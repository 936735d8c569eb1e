import TransformPreset.Capability.Requirement
import TransformPreset.Proofs.Entries
import TransformPreset.Proofs.Number.Digits
import TransformPreset.Proofs.Outcome
import TransformPreset.Proofs.Text.LowerCase

/-!
# What browser queries come to

Literal releases are the fragments of the queries that are not blank, in order, and each of them is
a release (`readReleases_ok_iff`). The map of least versions is a running minimum: it is at most the
integer of every release of the browser that was taken in (`lowestFrom_le`).

Two readers look at a version: one tests that a fragment is a release, the other takes the integer
at its start. They agree, because a version that passes the test starts with a digit, and the digits
at its start are the ones in the fragment as it was written (`leadingInt_lowerFrom`).
-/

namespace TransformPreset

/-! ## Literal releases -/

/-- A fragment is read exactly if it is blank or a release, and then as no release or as its own. -/
theorem readRelease_ok_iff {text : List Char} {release? : Option String} :
    readRelease text = .ok release? ↔
      (releaseText text = [] ∨ isRelease (releaseText text) = true) ∧
      release? =
        if releaseText text = [] then none else some (String.ofList (releaseText text)) := by
  unfold readRelease
  dsimp only
  by_cases hblank : releaseText text = []
  · rw [hblank, List.isEmpty_nil, if_pos rfl, if_pos rfl, Except.ok.injEq, eq_comm]
    exact (and_iff_right (.inl rfl)).symm
  · have hfull : ¬(releaseText text).isEmpty = true := by
      rw [List.isEmpty_iff]
      exact hblank
    rw [if_neg hfull, if_neg hblank, or_iff_right hblank]
    by_cases hrelease : isRelease (releaseText text) = true
    · rw [if_pos hrelease, Except.ok.injEq, eq_comm]
      exact (and_iff_right hrelease).symm
    · rw [if_neg hrelease]
      exact iff_of_false (fun h => by cases h) fun h => hrelease h.1

/-- Fragments are read exactly if each of them is blank or a release, and then as the ones that are
not blank. -/
theorem readReleases_ok_iff {texts : List (List Char)} {releases : List String} :
    readReleases texts = .ok releases ↔
      (∀ text ∈ texts, releaseText text = [] ∨ isRelease (releaseText text) = true) ∧
      releases = ((texts.map releaseText).filter fun text => !text.isEmpty).map String.ofList := by
  induction texts generalizing releases with
  | nil =>
    rw [readReleases, Except.ok.injEq, eq_comm]
    exact (and_iff_right fun _ htext => absurd htext List.not_mem_nil).symm
  | cons text rest ih =>
    -- What the first fragment adds to the releases is what it adds to the list of texts.
    have hfirst : (if releaseText text = [] then none
        else some (String.ofList (releaseText text))).toList ++
          ((rest.map releaseText).filter fun text => !text.isEmpty).map String.ofList =
        (((text :: rest).map releaseText).filter fun text => !text.isEmpty).map String.ofList := by
      by_cases hblank : releaseText text = []
      · rw [if_pos hblank, List.map_cons, List.filter_cons, hblank]
        rfl
      · have hfull : (!(releaseText text).isEmpty) = true := by
          rw [Bool.not_eq_true', List.isEmpty_eq_false_iff]
          exact hblank
        rw [if_neg hblank, List.map_cons, List.filter_cons, if_pos hfull]
        rfl
    rw [readReleases, except_bind_ok_iff, List.forall_mem_cons]
    constructor
    · rintro ⟨first?, hread, h⟩
      obtain ⟨others, hothers, h⟩ := except_bind_ok_iff.1 h
      obtain ⟨htext, rfl⟩ := readRelease_ok_iff.1 hread
      obtain ⟨hrest, rfl⟩ := ih.1 hothers
      exact ⟨⟨htext, hrest⟩, (Except.ok.inj h).symm.trans hfirst⟩
    · rintro ⟨⟨htext, hrest⟩, rfl⟩
      refine ⟨_, readRelease_ok_iff.2 ⟨htext, rfl⟩, except_bind_ok_iff.2 ⟨_, ih.2 ⟨hrest, rfl⟩, ?_⟩⟩
      exact congrArg Except.ok hfirst

/-- A fragment that is not blank names one of the releases that were read. -/
theorem mem_readReleases {texts : List (List Char)} {releases : List String}
    (h : readReleases texts = .ok releases) {text : List Char} (htext : text ∈ texts)
    (hne : releaseText text ≠ []) :
    isRelease (releaseText text) = true ∧ String.ofList (releaseText text) ∈ releases := by
  obtain ⟨hall, rfl⟩ := readReleases_ok_iff.1 h
  refine ⟨(hall text htext).resolve_left hne, List.mem_map_of_mem ?_⟩
  rw [List.mem_filter]
  exact ⟨List.mem_map_of_mem htext, by simp [hne]⟩

/-- Queries name releases, or a fragment of them is reported. -/
theorem literalReleases_failsWith (queries : List String) :
    FailsWith (Failure.OfKind [.config]) (literalReleases queries) := by
  have hreleases : ∀ parts, FailsWith (Failure.OfKind [.config]) (readReleases parts) := by
    intro parts
    induction parts with
    | nil => exact failsWith_ok _
    | cons fragment rest ih =>
      refine FailsWith.bind ?_ fun _ _ => ih.bind fun _ _ => failsWith_ok _
      unfold readRelease
      dsimp only
      split
      · exact failsWith_ok _
      · split
        · exact failsWith_ok _
        · exact failsWith_ofKind .config rfl (by decide)
  exact hreleases _

/-! ## The version of a release -/

/-- No wide blank is a digit. -/
theorem wideBlanks_apart : ∀ blank ∈ wideBlanks, ∀ digit ∈ wideDigits,
    digit.2 < blank.1 ∨ blank.2 < digit.1 := by
  decide

/-- A digit is no blank. -/
theorem isBlank_eq_false_of_isDigit {c : Char} (h : isDigit c = true) : isBlank c = false := by
  rw [← Bool.not_eq_true]
  intro hblank
  obtain ⟨digit, hdigit, hlow, hhigh⟩ := isDigit_iff.1 h
  unfold isBlank isPlain at hblank
  -- The digit is plain or wide, and so is the blank; the runs of either kind are apart.
  rcases List.mem_cons.1 hdigit with rfl | hwide
  · split at hblank
    · simp at hblank
      omega
    · rename_i hplain
      simp at hplain
      omega
  · have hfar := le_of_mem_wideDigits digit hwide
    split at hblank
    · rename_i hplain
      simp at hplain
      omega
    · obtain ⟨blank, hmem, hfirst, hlast⟩ := CharClass.has_iff.1 hblank
      have := wideBlanks_apart blank hmem digit hwide
      omega

/-- A text that starts with a digit starts with no sign. -/
theorem ne_sign_of_isDigit {d : Char} (hd : isDigit d = true) (rest other : List Char) :
    d :: rest ≠ '-' :: other ∧ d :: rest ≠ '+' :: other := by
  constructor
  · rintro ⟨⟩
    exact absurd hd (by decide)
  · rintro ⟨⟩
    exact absurd hd (by decide)

/-- A digit at the start of a text is no sign. -/
theorem head?_ne_sign_of_isDigit {d : Char} (hd : isDigit d = true) (rest : List Char) :
    ∀ c ∈ (d :: rest).head?, c ≠ '-' ∧ c ≠ '+' := by
  rintro c ⟨⟩
  have hne := fun other => ne_sign_of_isDigit hd rest other
  exact ⟨fun heq => (hne rest).1 (heq ▸ rfl), fun heq => (hne rest).2 (heq ▸ rfl)⟩

/-- No sign is split off from a text that starts with none. -/
theorem splitSign_of_head? {body : List Char} (h : ∀ c ∈ body.head?, c ≠ '-' ∧ c ≠ '+') :
    splitSign body = ([], body) := by
  refine splitSign.eq_3 body ?_ ?_
  · rintro rest rfl
    exact (h '-' rfl).1 rfl
  · rintro rest rfl
    exact (h '+' rfl).2 rfl

/-- Nor is one taken. -/
theorem takeSign_of_head? {body : List Char} (h : ∀ c ∈ body.head?, c ≠ '-' ∧ c ≠ '+') :
    takeSign body = (false, body) := by
  refine takeSign.eq_3 body ?_ ?_
  · rintro rest rfl
    exact (h '-' rfl).1 rfl
  · rintro rest rfl
    exact (h '+' rfl).2 rfl

/-- The integer at the start of a text that starts with a digit is its run of digits. -/
theorem leadingInt?_of_isDigit {c : Char} (h : isDigit c = true) (rest : List Char) :
    leadingInt? (c :: rest) = some ((c :: rest).takeWhile isDigit) := by
  have hblank : ¬isBlank c = true := by
    rw [isBlank_eq_false_of_isDigit h]
    exact Bool.false_ne_true
  unfold leadingInt?
  rw [List.dropWhile_cons_of_neg hblank, splitSign_of_head? (head?_ne_sign_of_isDigit h rest)]
  simp [List.takeWhile_cons_of_pos h]

/-- A version whose lower case starts with a digit has the same integer at its start as its lower
case. -/
theorem leadingInt_lowerFrom {before version : List Char} {d : Char} {more : List Char}
    (hlower : lowerFrom before version = d :: more) (hd : isDigit d = true) :
    leadingInt (d :: more) = leadingInt version := by
  have hdigits := takeWhile_isDigit_lowerFrom before version
  rw [hlower] at hdigits
  -- The run of digits is not empty in lower case, so it is not empty in the version either.
  have hsame : leadingInt? version = leadingInt? (d :: more) := by
    cases version with
    | nil =>
      rw [List.takeWhile_cons_of_pos hd] at hdigits
      exact absurd hdigits (List.cons_ne_nil _ _)
    | cons c rest =>
      cases hc : isDigit c with
      | true => rw [leadingInt?_of_isDigit hc, leadingInt?_of_isDigit hd, hdigits]
      | false =>
        have hneg : ¬isDigit c = true := by
          rw [hc]
          exact Bool.false_ne_true
        rw [List.takeWhile_cons_of_pos hd, List.takeWhile_cons_of_neg hneg] at hdigits
        exact absurd hdigits (List.cons_ne_nil _ _)
  unfold leadingInt
  rw [hsame]

/-- A version that starts with a digit has an integer at its start, unless that has too many
digits. -/
theorem leadingInt_of_isDigit {d : Char} {more : List Char} (hd : isDigit d = true)
    {n? : Option Int} (h : leadingInt (d :: more) = .ok n?) : ∃ n, n? = some n := by
  unfold leadingInt at h
  rw [leadingInt?_of_isDigit hd] at h
  dsimp only at h
  split at h
  · rename_i n hn
    exact ⟨n, (Except.ok.inj h).symm⟩
  · cases h

/-! ## Fragments of a name and a version -/

/-- The known browser names are made of the characters of names. -/
theorem isNameChar_of_mem_keys : ∀ key ∈ browserEnvironments.keys, ∀ c ∈ key.toList,
    isNameChar c = true := by
  have hall : (browserEnvironments.keys.all fun key => key.toList.all isNameChar) = true := by
    decide +kernel
  intro key hkey
  exact List.all_eq_true.1 (List.all_eq_true.1 hall key hkey)

/-- The characters of names are plain, and the space is none of them. -/
theorem isPlain_of_isNameChar {c : Char} (h : isNameChar c = true) : isPlain c = true := by
  unfold isNameChar at h
  unfold isPlain
  simp only [Bool.or_eq_true, Bool.and_eq_true, decide_eq_true_eq, beq_iff_eq] at h ⊢
  rcases h with h | rfl
  · omega
  · decide

/-- A text of a name, a space and more is a release only if a digit follows the space. -/
theorem isDigit_of_isRelease {name rest : List Char} (hname : ∀ c ∈ name, isNameChar c = true)
    (h : isRelease (name ++ ' ' :: rest) = true) :
    ∃ d more, rest = d :: more ∧ isDigit d = true := by
  have hspace : ¬isNameChar ' ' = true := by decide
  unfold isRelease at h
  -- The name is all that the test skips before the space.
  rw [List.dropWhile_append_of_pos hname, List.dropWhile_cons_of_neg hspace] at h
  cases rest with
  | nil => exact absurd h Bool.false_ne_true
  | cons d more =>
    simp only [Bool.and_eq_true] at h
    exact ⟨d, more, rfl, h.1.2⟩

/-- A release is divided at the space after its name. -/
theorem splitRelease_of_name {name : List Char} (hname : ∀ c ∈ name, isNameChar c = true)
    (version : List Char) :
    splitRelease (String.ofList (name ++ ' ' :: version)) = (String.ofList name, version) := by
  have hne : ∀ c ∈ name, (c != ' ') = true := by
    intro c hc
    rw [bne_iff_ne]
    rintro rfl
    exact absurd (hname _ hc) (by decide)
  unfold splitRelease partitionAt
  rw [String.toList_ofList, List.takeWhile_append_of_pos hne, List.dropWhile_append_of_pos hne]
  simp

/-- The characters of a known browser name in lower case are those of names. -/
theorem isNameChar_lowerCase {name : List Char} {environment : String}
    (hname : browserEnvironments.get? (String.ofList (lowerCase name)) = some environment) :
    ∀ c ∈ lowerCase name, isNameChar c = true := by
  have hkey := Entries.mem_keys_of_mem (Entries.mem_of_get? hname)
  have := isNameChar_of_mem_keys _ hkey
  rwa [String.toList_ofList] at this

/-- The text of a fragment of a known browser name and a version. The name and the version are put
in lower case apart, since no sigma looks across the space. -/
theorem releaseText_of_words {fragment name version : List Char} {environment : String}
    (hwords : words fragment = [name, version])
    (hname : browserEnvironments.get? (String.ofList (lowerCase name)) = some environment) :
    releaseText fragment = lowerCase name ++ ' ' :: lowerFrom (' ' :: name.reverse) version := by
  have hnoSigma := no_sigma_of_plain fun c hc =>
    isPlain_of_isNameChar (isNameChar_lowerCase hname c hc)
  unfold releaseText lowerCase
  rw [hwords]
  show lowerFrom [] (name ++ ' ' :: (version ++ [])) = _
  rw [List.append_nil, lowerFrom_append hnoSigma, lowerFrom, List.append_nil]
  rfl

/-- A fragment of a known browser name and a version becomes the release of that name and the
version in lower case, if it is one; the integer at the start of the version stays. -/
theorem release_of_words {fragment name version : List Char} {environment : String}
    (hwords : words fragment = [name, version])
    (hname : browserEnvironments.get? (String.ofList (lowerCase name)) = some environment)
    (h : isRelease (releaseText fragment) = true) :
    ∃ d more, isDigit d = true ∧ leadingInt (d :: more) = leadingInt version ∧
      splitRelease (String.ofList (releaseText fragment)) =
        (String.ofList (lowerCase name), d :: more) := by
  have hchars := isNameChar_lowerCase hname
  rw [releaseText_of_words hwords hname] at h ⊢
  obtain ⟨d, more, hlower, hd⟩ := isDigit_of_isRelease hchars h
  refine ⟨d, more, hd, leadingInt_lowerFrom hlower hd, ?_⟩
  rw [splitRelease_of_name hchars, hlower]

/-! ## Least versions -/

/-- The map of least versions with one more release of an environment and a version; without either
of them it stays. -/
def takeRelease (lowest : Entries Int) (environment? : Option String) (n? : Option Int) :
    Entries Int :=
  match environment?, n? with
  | some environment, some n => lowest.insert environment (lesserVersion lowest environment n)
  | _, _ => lowest

/-- Taking in releases goes one by one, and fails only at a version of too many digits. -/
theorem result_lowestFrom_cons (lowest : Entries Int) (release : String) (rest : List String) :
    (lowestFrom lowest (release :: rest)).result =
      (leadingInt (splitRelease release).2 >>= fun n? =>
        (lowestFrom (takeRelease lowest (browserEnvironments.get? (splitRelease release).1) n?)
          rest).result) := by
  rw [lowestFrom, Traced.bind_result, Traced.of_result]
  refine congrArg _ (funext fun n? => ?_)
  unfold takeRelease
  cases browserEnvironments.get? (splitRelease release).1 with
  | none => rfl
  | some environment => cases n? <;> rfl

/-- Releases are taken in exactly if the first one can be read and the others are taken in after
it. -/
theorem lowestFrom_cons_ok_iff {lowest final : Entries Int} {release : String}
    {rest : List String} :
    (lowestFrom lowest (release :: rest)).result = .ok final ↔
      ∃ n?, leadingInt (splitRelease release).2 = .ok n? ∧
        (lowestFrom (takeRelease lowest (browserEnvironments.get? (splitRelease release).1) n?)
          rest).result = .ok final := by
  rw [result_lowestFrom_cons, except_bind_ok_iff]

/-- The lesser version is at most both. -/
theorem lesserVersion_le (lowest : Entries Int) (environment : String) (n : Int) :
    lesserVersion lowest environment n ≤ n ∧
      ∀ old, lowest.get? environment = some old → lesserVersion lowest environment n ≤ old := by
  unfold lesserVersion
  cases lowest.get? environment with
  | none => simp
  | some old =>
    dsimp only
    split
    · rename_i hlt
      exact ⟨Int.le_refl _, fun _ h => Option.some.inj h ▸ Int.le_of_lt hlt⟩
    · rename_i hlt
      exact ⟨Int.not_lt.1 hlt, fun _ h => Option.some.inj h ▸ Int.le_refl _⟩

/-- One more release does not raise the least version of any environment. -/
theorem takeRelease_le {lowest : Entries Int} {environment : String} {k : Int}
    (h : lowest.get? environment = some k) (environment? : Option String) (n? : Option Int) :
    ∃ m, m ≤ k ∧ (takeRelease lowest environment? n?).get? environment = some m := by
  unfold takeRelease
  split
  · rename_i e n
    rw [Entries.get?_insert]
    split
    · rename_i he
      exact ⟨_, (lesserVersion_le lowest e n).2 k (he ▸ h), rfl⟩
    · exact ⟨k, Int.le_refl k, h⟩
  · exact ⟨k, Int.le_refl k, h⟩

/-- Further releases do not raise the least version of any environment. -/
theorem lowestFrom_le_start {lowest final : Entries Int} {releases : List String}
    (h : (lowestFrom lowest releases).result = .ok final) {environment : String} {k : Int}
    (hk : lowest.get? environment = some k) :
    ∃ m, m ≤ k ∧ final.get? environment = some m := by
  induction releases generalizing lowest k with
  | nil =>
    rw [lowestFrom, Traced.pure_result, Except.ok.injEq] at h
    exact ⟨k, Int.le_refl k, h ▸ hk⟩
  | cons release rest ih =>
    obtain ⟨n?, -, h⟩ := lowestFrom_cons_ok_iff.1 h
    obtain ⟨m, hm, hget⟩ := takeRelease_le hk (browserEnvironments.get? (splitRelease release).1) n?
    obtain ⟨l, hl, hfinal⟩ := ih h hget
    exact ⟨l, Int.le_trans hl hm, hfinal⟩

/-- The least version of an environment is at most the integer of every release taken in. -/
theorem lowestFrom_le {lowest final : Entries Int} {releases : List String}
    (h : (lowestFrom lowest releases).result = .ok final) {release environment : String}
    (hrelease : release ∈ releases)
    (henvironment : browserEnvironments.get? (splitRelease release).1 = some environment) :
    ∃ n?, leadingInt (splitRelease release).2 = .ok n? ∧
      ∀ n, n? = some n → ∃ m, m ≤ n ∧ final.get? environment = some m := by
  induction releases generalizing lowest with
  | nil => exact absurd hrelease List.not_mem_nil
  | cons first rest ih =>
    obtain ⟨n?, hn, h⟩ := lowestFrom_cons_ok_iff.1 h
    rcases List.mem_cons.1 hrelease with rfl | hrest
    · refine ⟨n?, hn, ?_⟩
      rintro n rfl
      have hget : (takeRelease lowest (browserEnvironments.get? (splitRelease release).1)
          (some n)).get? environment = some (lesserVersion lowest environment n) := by
        rw [henvironment, takeRelease, Entries.get?_insert, if_pos rfl]
      -- From here on the least version can only sink.
      obtain ⟨m, hm, hfinal⟩ := lowestFrom_le_start h hget
      exact ⟨m, Int.le_trans hm (lesserVersion_le lowest environment n).1, hfinal⟩
    · exact ih h hrest

/-- The least version of a browser is at most that of every fragment that names it. -/
theorem lowestVersions_le_of_words {texts : List (List Char)} {releases : List String}
    {lowest : Entries Int} (hreleases : readReleases texts = .ok releases)
    (hlowest : (lowestVersions releases).result = .ok lowest) {fragment name version : List Char}
    {environment : String} (hfragment : fragment ∈ texts)
    (hwords : words fragment = [name, version])
    (hname : browserEnvironments.get? (String.ofList (lowerCase name)) = some environment) :
    ∃ v, leadingInt version = .ok (some v) ∧
      ∃ n, n ≤ v ∧ lowest.get? environment = some n := by
  have hne : releaseText fragment ≠ [] := by
    rw [releaseText_of_words hwords hname]
    simp
  obtain ⟨hrelease, hmem⟩ := mem_readReleases hreleases hfragment hne
  obtain ⟨d, more, hd, hsame, hsplit⟩ := release_of_words hwords hname hrelease
  obtain ⟨n?, hn, hle⟩ := lowestFrom_le hlowest hmem (by rw [hsplit]; exact hname)
  rw [hsplit] at hn
  obtain ⟨v, rfl⟩ := leadingInt_of_isDigit hd hn
  exact ⟨v, hsame ▸ hn, hle v rfl⟩

/-- An integer that was read from a text is short enough to be written as one. -/
theorem isTooLong_of_leadingInt {version : List Char} {n : Int}
    (h : leadingInt version = .ok (some n)) : isTooLong n = false := by
  unfold leadingInt at h
  split at h
  · cases h
  · split at h
    · rename_i m hread
      obtain rfl : m = n := Option.some.inj (Except.ok.inj h)
      unfold readInt at hread
      dsimp only at hread
      split at hread
      · cases hread
      · rename_i hlength
        obtain rfl := Except.ok.inj hread
        have hvalue := digitsValue_lt_of_length (Nat.not_lt.1 hlength)
        refine decide_eq_false (Nat.not_le.2 ?_)
        split
        · rw [Int.natAbs_neg]
          exact hvalue
        · exact hvalue
    · cases h

/-- Least versions are short enough to be written. -/
theorem isTooLong_lowestFrom {lowest final : Entries Int} {releases : List String}
    (h : (lowestFrom lowest releases).result = .ok final)
    (hlowest : ∀ entry ∈ lowest, isTooLong entry.2 = false) :
    ∀ entry ∈ final, isTooLong entry.2 = false := by
  induction releases generalizing lowest with
  | nil =>
    rw [lowestFrom, Traced.pure_result, Except.ok.injEq] at h
    exact h ▸ hlowest
  | cons release rest ih =>
    obtain ⟨n?, hn, h⟩ := lowestFrom_cons_ok_iff.1 h
    refine ih h ?_
    unfold takeRelease
    split
    · rename_i environment n _
      -- The version that is taken in is one that was read, or one that was there before.
      have hlesser : isTooLong (lesserVersion lowest environment n) = false := by
        have hread := isTooLong_of_leadingInt hn
        unfold lesserVersion
        split
        · rename_i old hold
          split
          · exact hread
          · exact hlowest (environment, old) (Entries.mem_of_get? hold)
        · exact hread
      intro entry hentry
      rcases Entries.mem_insert hentry with rfl | hentry
      · exact hlesser
      · exact hlowest entry hentry
    · exact hlowest

/-- Least versions are kept for the environments of known browsers. -/
theorem mem_keys_lowestFrom {lowest final : Entries Int} {releases : List String}
    (h : (lowestFrom lowest releases).result = .ok final) {key : String}
    (hkey : key ∈ final.keys) :
    key ∈ lowest.keys ∨ key ∈ browserEnvironments.map Prod.snd := by
  induction releases generalizing lowest with
  | nil =>
    rw [lowestFrom, Traced.pure_result, Except.ok.injEq] at h
    exact .inl (h ▸ hkey)
  | cons release rest ih =>
    obtain ⟨n?, -, h⟩ := lowestFrom_cons_ok_iff.1 h
    rcases ih h with hmid | hknown
    · unfold takeRelease at hmid
      split at hmid
      · rename_i environment n hget
        rcases Entries.mem_keys_insert.1 hmid with rfl | hmid
        · exact .inr (List.mem_map.2 ⟨_, Entries.mem_of_get? hget, rfl⟩)
        · exact .inl hmid
      · exact .inl hmid
    · exact .inr hknown

/-- No environment has two least versions. -/
theorem nodup_lowestFrom {lowest final : Entries Int} {releases : List String}
    (h : (lowestFrom lowest releases).result = .ok final) (hlowest : lowest.keys.Nodup) :
    final.keys.Nodup := by
  induction releases generalizing lowest with
  | nil =>
    rw [lowestFrom, Traced.pure_result, Except.ok.injEq] at h
    exact h ▸ hlowest
  | cons release rest ih =>
    obtain ⟨n?, -, h⟩ := lowestFrom_cons_ok_iff.1 h
    refine ih h ?_
    unfold takeRelease
    split
    · exact Entries.nodup_insert hlowest _ _
    · exact hlowest

/-- The least versions are found unless a version has too many digits. -/
theorem lowestFrom_failsWith (lowest : Entries Int) (releases : List String) :
    FailsWith (Failure.OfKind [.value]) (lowestFrom lowest releases).result := by
  induction releases generalizing lowest with
  | nil => exact failsWith_ok _
  | cons release rest ih =>
    rw [lowestFrom]
    refine Traced.failsWith_bind ?_ fun n? _ => ?_
    · rw [Traced.of_result]
      unfold leadingInt
      split
      · exact failsWith_ok _
      · split
        · exact failsWith_ok _
        · exact failsWith_ofKind .value rfl (by decide)
    · split
      · exact ih _
      · exact Traced.failsWith_bind (failsWith_ok _) fun _ _ => ih _

/-- Releases of unknown browsers are logged, and nothing else happens. -/
theorem lowestFrom_onlyLogs (lowest : Entries Int) (releases : List String) :
    (lowestFrom lowest releases).OnlyLogs := by
  induction releases generalizing lowest with
  | nil => exact Traced.onlyLogs_pure _
  | cons release rest ih =>
    rw [lowestFrom]
    refine (Traced.onlyLogs_of _).bind fun n? _ => ?_
    split
    · exact ih _
    · exact (Traced.onlyLogs_log _ _ _).bind fun _ _ => ih _

end TransformPreset
