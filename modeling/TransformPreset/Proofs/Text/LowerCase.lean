import TransformPreset.Text.Digit
import TransformPreset.Text.LowerCase

/-!
# Texts in lower case

No run of capitals meets a run of digits, and neither do their small letters. So lower case leaves
digits as they are and makes no new ones, and the digits at the start of a text are the same before
and after (`takeWhile_isDigit_lowerFrom`). A text without a capital sigma is mapped character by
character, whatever stands around it (`lowerFrom_append`).

No small letter is a capital, so a text in lower case stays as it is (`lowerCase_lowerCase`).
-/

namespace TransformPreset

/-! ## Digits by their code points -/

/-- The runs of decimal digits of all scripts. -/
def digitRanges : CharClass :=
  (0x30, 0x39) :: wideDigits

/-- The wide digits lie beyond the first 128 code points. -/
theorem le_of_mem_wideDigits : ∀ range ∈ wideDigits, 0x80 ≤ range.1 := by
  decide

/-- A digit is a character of one of the runs. -/
theorem isDigit_eq_has (c : Char) : isDigit c = digitRanges.has c := by
  unfold isDigit digitValue? digitRanges CharClass.has isPlain
  rw [List.any_cons]
  split
  · -- A plain character lies in no run of wide digits, and a wide one not in that of ASCII.
    rename_i hplain
    rw [decide_eq_true_eq] at hplain
    have hwide : wideDigits.any (fun range => decide (range.1 ≤ c.toNat) &&
        decide (c.toNat ≤ range.2)) = false := by
      rw [List.any_eq_false]
      intro range hrange
      have := le_of_mem_wideDigits range hrange
      simp
      omega
    rw [hwide, Bool.or_false]
    split
    · rename_i h
      exact h.symm
    · rename_i h
      rw [Bool.not_eq_true] at h
      exact h.symm
  · rename_i hplain
    rw [decide_eq_true_eq] at hplain
    have hlow : (decide (0x30 ≤ c.toNat) && decide (c.toNat ≤ 0x39)) = false := by
      simp
      omega
    rw [hlow, Bool.false_or, Option.isSome_map, List.isSome_find?]

/-- A character is a digit exactly if its code point lies in one of the runs. -/
theorem isDigit_iff {c : Char} :
    isDigit c = true ↔ ∃ range ∈ digitRanges, range.1 ≤ c.toNat ∧ c.toNat ≤ range.2 := by
  rw [isDigit_eq_has, CharClass.has_iff]

/-- Whether a run of code points lies apart from all the runs of digits. -/
def apartFromDigits (first last : Nat) : Bool :=
  digitRanges.all fun range => range.2.blt first || last.blt range.1

/-- A code point of such a run is that of no digit. -/
theorem isDigit_ofNat_eq_false {first last n : Nat} (h : apartFromDigits first last = true)
    (hfirst : first ≤ n) (hlast : n ≤ last) : isDigit (Char.ofNat n) = false := by
  by_cases hn : n.isValidChar
  · rw [← Bool.not_eq_true, isDigit_iff]
    rintro ⟨range, hrange, hlow, hhigh⟩
    have htoNat : (Char.ofNat n).toNat = n := by
      rw [Char.ofNat, dif_pos hn]
      rfl
    have hapart := List.all_eq_true.1 h range hrange
    rw [Bool.or_eq_true, Nat.blt_eq, Nat.blt_eq] at hapart
    omega
  · rw [Char.ofNat, dif_neg hn]
    decide

/-! ## Small letters -/

/-- No capital outside the first 128 code points is a digit, and neither is its small letter. -/
theorem wideCapitals_apart : ∀ run ∈ wideCapitals, apartFromDigits run.first run.last = true ∧
    apartFromDigits run.small (run.small + (run.last - run.first)) = true := by
  decide +kernel

/-- Among the first 128 code points, lower case changes no digit and makes none. -/
theorem toLower_plain : ∀ n < 0x80,
    if isDigit (Char.ofNat n) then (Char.ofNat n).toLower = Char.ofNat n
    else isDigit (Char.ofNat n).toLower = false := by
  decide

/-- The small letter of a digit is the digit, and that of another character is no digit. -/
theorem smallLetter_digit (c : Char) :
    if isDigit c then smallLetter c = c else isDigit (smallLetter c) = false := by
  unfold smallLetter
  by_cases hplain : isPlain c = true
  · have h := toLower_plain c.toNat (by simpa [isPlain] using hplain)
    rw [Char.ofNat_toNat] at h
    rw [if_pos hplain]
    exact h
  · rw [if_neg hplain]
    cases hfind : wideCapitals.find? _ with
    | none =>
      dsimp only
      split
      · rfl
      · rename_i h
        rwa [Bool.not_eq_true] at h
    | some run =>
      have hrun := List.mem_of_find?_eq_some hfind
      have hin := List.find?_some hfind
      simp only [Bool.and_eq_true, decide_eq_true_eq] at hin
      -- The character lies in a run of capitals, so neither it nor its small letter is a digit.
      obtain ⟨hcapitals, hsmalls⟩ := wideCapitals_apart run hrun
      have hcapital : isDigit c = false := by
        rw [← Char.ofNat_toNat c]
        exact isDigit_ofNat_eq_false hcapitals (by omega) (by omega)
      have hsmall : isDigit (Char.ofNat (run.small + (c.toNat - run.first))) = false :=
        isDigit_ofNat_eq_false hsmalls (by omega) (by omega)
      rw [hcapital, if_neg Bool.false_ne_true]
      exact hsmall

/-! ## Lower case of a character in its place -/

/-- A digit is its own lower case. -/
theorem lowerOne_of_isDigit {c : Char} (h : isDigit c = true) (before after : List Char) :
    lowerOne before c after = [c] := by
  have hsmall := smallLetter_digit c
  rw [if_pos h] at hsmall
  have hdotted : (c.toNat == 0x130) = false := by
    rw [beq_eq_false_iff_ne]
    intro hc
    rw [← Char.ofNat_toNat c, hc] at h
    exact absurd h (by decide)
  have hsigma : (c.toNat == 0x3A3) = false := by
    rw [beq_eq_false_iff_ne]
    intro hc
    rw [← Char.ofNat_toNat c, hc] at h
    exact absurd h (by decide)
  rw [lowerOne, hdotted, hsigma, if_neg Bool.false_ne_true, if_neg Bool.false_ne_true, hsmall]

/-- The lower case of another character does not start with a digit. -/
theorem lowerOne_of_not_isDigit {c : Char} (h : isDigit c = false) (before after : List Char) :
    ∃ d rest, lowerOne before c after = d :: rest ∧ isDigit d = false := by
  unfold lowerOne
  split
  · exact ⟨'i', [Char.ofNat 0x307], rfl, by decide⟩
  · split
    · refine ⟨_, [], rfl, ?_⟩
      split <;> decide
    · have hsmall := smallLetter_digit c
      rw [h, if_neg Bool.false_ne_true] at hsmall
      exact ⟨smallLetter c, [], rfl, hsmall⟩

/-- The digits at the start of a text stay the same in lower case. -/
theorem takeWhile_isDigit_lowerFrom (before text : List Char) :
    (lowerFrom before text).takeWhile isDigit = text.takeWhile isDigit := by
  induction text generalizing before with
  | nil => rfl
  | cons c rest ih =>
    rw [lowerFrom]
    cases h : isDigit c with
    | true =>
      rw [lowerOne_of_isDigit h, List.singleton_append, List.takeWhile_cons_of_pos h,
        List.takeWhile_cons_of_pos h, ih]
    | false =>
      obtain ⟨d, more, hlower, hd⟩ := lowerOne_of_not_isDigit h before rest
      have hd' : ¬isDigit d = true := by rw [hd]; exact Bool.false_ne_true
      have hc' : ¬isDigit c = true := by rw [h]; exact Bool.false_ne_true
      rw [hlower, List.cons_append, List.takeWhile_cons_of_neg hd', List.takeWhile_cons_of_neg hc']

/-! ## Texts without a capital sigma -/

/-- A text without a capital sigma is mapped apart from what follows it. -/
theorem lowerFrom_append {a : List Char} (h : ∀ c ∈ a, c.toNat ≠ 0x3A3) (before b : List Char) :
    lowerFrom before (a ++ b) = lowerFrom before a ++ lowerFrom (a.reverse ++ before) b := by
  induction a generalizing before with
  | nil => rfl
  | cons c rest ih =>
    obtain ⟨hc, hrest⟩ := List.forall_mem_cons.1 h
    -- Only a capital sigma looks at what follows it.
    have hsigma : (c.toNat == 0x3A3) = false := beq_eq_false_iff_ne.2 hc
    rw [List.cons_append, lowerFrom, lowerFrom, ih hrest, List.reverse_cons, List.append_assoc,
      List.append_assoc, List.singleton_append]
    simp only [lowerOne, hsigma, Bool.false_eq_true, if_false]

/-- A text that is plain in lower case holds no capital sigma. -/
theorem no_sigma_of_plain {before text : List Char}
    (h : ∀ d ∈ lowerFrom before text, isPlain d = true) : ∀ c ∈ text, c.toNat ≠ 0x3A3 := by
  induction text generalizing before with
  | nil => exact fun c hc => absurd hc List.not_mem_nil
  | cons c rest ih =>
    rw [lowerFrom, List.forall_mem_append] at h
    refine List.forall_mem_cons.2 ⟨?_, ih h.2⟩
    -- The small letter of a capital sigma is none of the first 128 characters.
    intro hc
    have hone := h.1
    rw [lowerOne, hc] at hone
    have := hone _ List.mem_cons_self
    split at this <;> exact absurd this (by decide)

/-! ## Lower case of lower case -/

/-- The characters that lower case leaves as they are, wherever they stand. -/
structure IsLower (c : Char) : Prop where
  /-- It is not the dotted capital I. -/
  notDotted : c.toNat ≠ 0x130
  /-- It is no capital sigma. -/
  notSigma : c.toNat ≠ 0x3A3
  /-- It is its own small letter. -/
  small : smallLetter c = c

/-- A text of such characters is its own lower case. -/
theorem lowerFrom_of_isLower {text : List Char} (h : ∀ c ∈ text, IsLower c) (before : List Char) :
    lowerFrom before text = text := by
  induction text generalizing before with
  | nil => rfl
  | cons c rest ih =>
    obtain ⟨hc, hrest⟩ := List.forall_mem_cons.1 h
    have hone : lowerOne before c rest = [c] := by
      rw [lowerOne, beq_eq_false_iff_ne.2 hc.notDotted, beq_eq_false_iff_ne.2 hc.notSigma,
        if_neg Bool.false_ne_true, if_neg Bool.false_ne_true, hc.small]
    rw [lowerFrom, hone, ih hrest, List.singleton_append]

/-- Whether no small letter of a run of capitals is a capital of another run: the two lie apart, or
they alternate. -/
def CapitalRun.sparedBy (run other : CapitalRun) : Bool :=
  other.last.blt run.small || (run.small + (run.last - run.first)).blt other.first ||
    (other.step == 2 && (run.first == run.last || run.step == 2) &&
      (run.small + other.first) % 2 == 1)

/-- No small letter is a capital. -/
theorem wideSmalls_spared : ∀ run ∈ wideCapitals, wideCapitals.all run.sparedBy = true := by
  decide +kernel

/-- Nor is it one of the two capitals that are not mapped one by one. -/
theorem wideSmalls_notSpecial : ∀ run ∈ wideCapitals, ∀ n ∈ [0x130, 0x3A3],
    n < run.small ∨ run.small + (run.last - run.first) < n := by
  decide +kernel

/-- The only small letter among the first 128 code points is the `k` of the Kelvin sign. -/
theorem wideSmalls_plain : ∀ run ∈ wideCapitals, run.small < 0x80 →
    run.small = 0x6B ∧ run.first = run.last := by
  decide +kernel

/-- Among the first 128 code points, lower case yields plain characters that it leaves. -/
theorem toLower_plain_toLower : ∀ n < 0x80, isPlain (Char.ofNat n).toLower = true ∧
    (Char.ofNat n).toLower.toLower = (Char.ofNat n).toLower := by
  decide

/-- A plain character that is its own small letter is left. -/
theorem isLower_of_plain {c : Char} (hplain : isPlain c = true) (h : c.toLower = c) :
    IsLower c where
  notDotted hc := by
    rw [isPlain, hc] at hplain
    cases hplain
  notSigma hc := by
    rw [isPlain, hc] at hplain
    cases hplain
  small := by rw [smallLetter, if_pos hplain, h]

/-- The small letter of a capital of a run is left. -/
theorem isLower_of_run {run : CapitalRun} (hrun : run ∈ wideCapitals) {k : Nat}
    (hk : k ≤ run.last - run.first) (hstep : k % run.step = 0) :
    IsLower (Char.ofNat (run.small + k)) := by
  by_cases hvalid : (run.small + k).isValidChar
  · have htoNat : (Char.ofNat (run.small + k)).toNat = run.small + k := by
      rw [Char.ofNat, dif_pos hvalid]
      rfl
    have hdotted := wideSmalls_notSpecial run hrun 0x130 (by decide)
    have hsigma := wideSmalls_notSpecial run hrun 0x3A3 (by decide)
    refine ⟨by omega, by omega, ?_⟩
    by_cases hplain : run.small + k < 0x80
    · obtain ⟨hkelvin, hsingle⟩ := wideSmalls_plain run hrun (by omega)
      have hzero : k = 0 := by omega
      rw [hkelvin, hzero]
      decide
    · -- No run holds the small letter, so the search for one ends without any.
      have hnone : wideCapitals.find? (fun other =>
          other.first ≤ run.small + k && run.small + k ≤ other.last &&
            (run.small + k - other.first) % other.step == 0) = none := by
        rw [List.find?_eq_none]
        intro other hother
        have hspared := List.all_eq_true.1 (wideSmalls_spared run hrun) other hother
        simp only [CapitalRun.sparedBy, Bool.or_eq_true, Bool.and_eq_true, Nat.blt_eq,
          beq_iff_eq] at hspared
        simp only [Bool.and_eq_true, decide_eq_true_eq, beq_iff_eq, not_and]
        rintro ⟨hlow, hhigh⟩ hmod
        rcases hspared with (hbelow | habove) | ⟨⟨htwo, halone⟩, hodd⟩
        · omega
        · omega
        · rw [htwo] at hmod
          rcases halone with hsingle | hstepTwo
          · omega
          · rw [hstepTwo] at hstep
            omega
      rw [smallLetter, if_neg (by rw [isPlain, htoNat]; simpa using hplain), htoNat, hnone]
  · have hzero : Char.ofNat (run.small + k) = Char.ofNat 0 := by
      rw [Char.ofNat, dif_neg hvalid]
      rfl
    rw [hzero]
    exact isLower_of_plain (by decide) (by decide)

/-- A character that is not one of the two has a small letter that is left. -/
theorem isLower_smallLetter {c : Char} (hdotted : c.toNat ≠ 0x130) (hsigma : c.toNat ≠ 0x3A3) :
    IsLower (smallLetter c) := by
  by_cases hplain : isPlain c = true
  · have h := toLower_plain_toLower c.toNat (by simpa [isPlain] using hplain)
    rw [Char.ofNat_toNat] at h
    rw [smallLetter, if_pos hplain]
    exact isLower_of_plain h.1 h.2
  · cases hfind : wideCapitals.find? (fun run => run.first ≤ c.toNat && c.toNat ≤ run.last &&
        (c.toNat - run.first) % run.step == 0) with
    | none =>
      have hsame : smallLetter c = c := by rw [smallLetter, if_neg hplain, hfind]
      rw [hsame]
      exact ⟨hdotted, hsigma, hsame⟩
    | some run =>
      have hin := List.find?_some hfind
      simp only [Bool.and_eq_true, decide_eq_true_eq, beq_iff_eq] at hin
      rw [smallLetter, if_neg hplain, hfind]
      exact isLower_of_run (List.mem_of_find?_eq_some hfind) (by omega) hin.2

/-- What lower case yields it leaves. -/
theorem isLower_of_mem_lowerFrom {before text : List Char} :
    ∀ d ∈ lowerFrom before text, IsLower d := by
  induction text generalizing before with
  | nil => exact fun d hd => absurd hd List.not_mem_nil
  | cons c rest ih =>
    rw [lowerFrom, List.forall_mem_append]
    refine ⟨?_, ih⟩
    unfold lowerOne
    split
    · have hi : IsLower 'i' := isLower_of_plain (by decide) (by decide)
      have hdot : IsLower (Char.ofNat 0x307) := ⟨by decide, by decide, by decide +kernel⟩
      exact List.forall_mem_cons.2 ⟨hi, List.forall_mem_singleton.2 hdot⟩
    · rename_i hdotted
      split
      · rw [List.forall_mem_singleton]
        split
        · exact ⟨by decide, by decide, by decide +kernel⟩
        · exact ⟨by decide, by decide, by decide +kernel⟩
      · rename_i hsigma
        exact List.forall_mem_singleton.2
          (isLower_smallLetter (by simpa using hdotted) (by simpa using hsigma))

/-- Lower case of lower case changes nothing. -/
theorem lowerCase_lowerCase (text : List Char) : lowerCase (lowerCase text) = lowerCase text :=
  lowerFrom_of_isLower isLower_of_mem_lowerFrom []

end TransformPreset
