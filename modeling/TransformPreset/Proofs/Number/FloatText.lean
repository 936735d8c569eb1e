import Mathlib.Data.List.TakeWhile
import TransformPreset.Proofs.Number.Digits
import TransformPreset.Proofs.Number.Leading
import TransformPreset.Proofs.Text.LongestStart

/-!
# Texts of floating-point numbers

A number is written by blanks, at most one sign and a decimal (`WritesNumber`). What is taken from
the start of a text is the longest start of that form (`longestStart_of_leadingFloat?`), and it is
there exactly if a digit, or a point and a digit, comes after the blanks and the sign
(`leadingFloat?_eq_none_iff`). The reader of numbers reads each such text, with digits of any
script, as the number nearest to the decimal, unless one of the four separators `0x1C` to `0x1F` is
among its blanks: those are blanks of a text, but none of a number (`readFloat?_of_writesNumber`,
`readFloat?_of_separator`).
-/

namespace TransformPreset

/-- The texts of decimals without sign and exponent, each with its digits and with how many of them
come after the point. -/
inductive WritesDecimal : List Char → List Char → Nat → Prop
  /-- Digits. -/
  | whole {digits : List Char} (hne : digits ≠ []) (hdigits : ∀ c ∈ digits, isDigit c = true) :
    WritesDecimal digits digits 0
  /-- Digits with a point before, among or behind them. -/
  | pointed {whole fraction : List Char} (hne : whole ≠ [] ∨ fraction ≠ [])
    (hwhole : ∀ c ∈ whole, isDigit c = true) (hfraction : ∀ c ∈ fraction, isDigit c = true) :
    WritesDecimal (whole ++ '.' :: fraction) (whole ++ fraction) fraction.length

/-- The texts of numbers, each with the number nearest to what it writes: blanks, at most one sign
and a decimal. -/
inductive WritesNumber : List Char → Binary64 → Prop
  /-- The text in its parts. -/
  | intro {blanks sign decimal digits : List Char} {negative : Bool} {places : Nat}
    (hblanks : ∀ c ∈ blanks, isBlank c = true) (hsign : IsSign sign negative)
    (hdecimal : WritesDecimal decimal digits places) :
    WritesNumber (blanks ++ (sign ++ decimal))
      (.ofDecimal negative (digitsValue digits) (-places))

/-- The texts of decimals. -/
def IsDecimalText (text : List Char) : Prop :=
  ∃ digits places, WritesDecimal text digits places

/-- The texts of numbers. -/
def IsNumberText (text : List Char) : Prop :=
  ∃ x, WritesNumber text x

/-- The texts that go on with a number: a digit, or a point and a digit, after at most one sign. -/
inductive StartsNumber : List Char → Prop
  /-- A digit. -/
  | digit {sign rest : List Char} {negative : Bool} {d : Char} (hsign : IsSign sign negative)
    (hd : isDigit d = true) : StartsNumber (sign ++ d :: rest)
  /-- A point and a digit. -/
  | point {sign rest : List Char} {negative : Bool} {d : Char} (hsign : IsSign sign negative)
    (hd : isDigit d = true) : StartsNumber (sign ++ '.' :: d :: rest)

/-- The four separators, which are blanks of a text and no blanks of a number. -/
def IsSeparator (c : Char) : Prop :=
  0x1C ≤ c.toNat ∧ c.toNat ≤ 0x1F

instance : DecidablePred IsSeparator :=
  fun c => inferInstanceAs (Decidable (0x1C ≤ c.toNat ∧ c.toNat ≤ 0x1F))

variable {text start decimal digits sign blanks rest more : List Char} {negative : Bool}
  {places : Nat}

/-! ## Decimals -/

/-- The characters of decimals. -/
def IsDecimalChar (c : Char) : Prop :=
  isDigit c = true ∨ c = '.'

instance : DecidablePred IsDecimalChar :=
  fun c => inferInstanceAs (Decidable (isDigit c = true ∨ c = '.'))

namespace IsDecimalChar

variable {c : Char}

theorem isBlank_eq_false (h : IsDecimalChar c) : isBlank c = false := by
  rcases h with h | rfl
  · exact isBlank_eq_false_of_isDigit h
  · decide

theorem ne_sign (h : IsDecimalChar c) : c ≠ '-' ∧ c ≠ '+' := by
  constructor
  · rintro rfl
    exact absurd h (by decide)
  · rintro rfl
    exact absurd h (by decide)

end IsDecimalChar

namespace WritesDecimal

/-- A decimal is made of digits and a point. -/
theorem chars (h : WritesDecimal text digits places) : ∀ c ∈ text, IsDecimalChar c := by
  cases h with
  | whole hne hdigits => exact fun c hc => .inl (hdigits c hc)
  | pointed hne hwhole hfraction =>
    refine List.forall_mem_append.2 ⟨fun c hc => .inl (hwhole c hc), ?_⟩
    exact List.forall_mem_cons.2 ⟨.inr rfl, fun c hc => .inl (hfraction c hc)⟩

theorem ne_nil (h : WritesDecimal text digits places) : text ≠ [] := by
  cases h with
  | whole hne hdigits => exact hne
  | pointed hne hwhole hfraction => simp

/-- A decimal goes on with a number. -/
theorem startsNumber (h : WritesDecimal text digits places) (hsign : IsSign sign negative)
    (more : List Char) : StartsNumber (sign ++ (text ++ more)) := by
  cases h with
  | whole hne hdigits =>
    obtain ⟨d, others, rfl⟩ := List.exists_cons_of_ne_nil hne
    exact .digit hsign (hdigits d List.mem_cons_self)
  | pointed hne hwhole hfraction =>
    rename_i whole fraction
    cases whole with
    | nil =>
      obtain ⟨d, others, rfl⟩ := List.exists_cons_of_ne_nil (hne.resolve_left fun h => h rfl)
      exact .point hsign (hfraction d List.mem_cons_self)
    | cons d others => exact .digit hsign (hwhole d List.mem_cons_self)

end WritesDecimal

namespace WritesDecimal

variable {other whole : List Char}

/-- A decimal at the start of digits and a point takes no more of a text than the digits on both
sides of the point. -/
theorem length_le_pointed (h : WritesDecimal other digits places)
    (hwhole : ∀ c ∈ whole, isDigit c = true) (hmore : other ++ more = whole ++ '.' :: rest) :
    other.length ≤ (whole ++ '.' :: rest.takeWhile isDigit).length := by
  rw [List.length_append, List.length_cons]
  cases h with
  | whole hne hdigits =>
    have := length_le_run hwhole (isDigit_head?_point rest) hdigits hmore
    omega
  | pointed hne hotherWhole hfraction =>
    rename_i otherWhole fraction
    rw [List.append_assoc, List.cons_append] at hmore
    obtain ⟨hwholes, hrests⟩ := run_unique hotherWhole (isDigit_head?_point _) hwhole
      (isDigit_head?_point _) hmore
    have hsplit := List.takeWhile_append_dropWhile (p := isDigit) (l := rest)
    have := length_le_run (List.all_eq_true.1 List.all_takeWhile) (head?_dropWhile rest) hfraction
      ((List.cons.inj hrests).2.trans hsplit.symm)
    rw [List.length_append, List.length_cons, hwholes]
    omega

/-- At the start of digits that no point comes after, it takes no more than the digits. -/
theorem length_le_whole (h : WritesDecimal other digits places)
    (hwhole : ∀ c ∈ whole, isDigit c = true) (hrest : ∀ c ∈ rest.head?, isDigit c = false)
    (hnoPoint : ∀ after, rest ≠ '.' :: after) (hmore : other ++ more = whole ++ rest) :
    other.length ≤ whole.length := by
  cases h with
  | whole hne hdigits => exact length_le_run hwhole hrest hdigits hmore
  | pointed hne hotherWhole hfraction =>
    rw [List.append_assoc, List.cons_append] at hmore
    obtain ⟨-, hrests⟩ := run_unique hotherWhole (isDigit_head?_point _) hwhole hrest hmore
    exact absurd hrests.symm (hnoPoint _)

end WritesDecimal

/-- What is taken from the start of a text is its longest start that is a decimal. -/
theorem longestStart_of_leadingDecimal? (h : leadingDecimal? text = some start) :
    LongestStart IsDecimalText text start := by
  have hwhole : ∀ c ∈ text.takeWhile isDigit, isDigit c = true :=
    List.all_eq_true.1 List.all_takeWhile
  have hsplit := List.takeWhile_append_dropWhile (p := isDigit) (l := text)
  have hrun := head?_dropWhile (p := isDigit) text
  unfold leadingDecimal? at h
  split at h
  · rename_i rest hrest
    rw [hrest] at hsplit
    dsimp only at h
    split at h
    · cases h
    · rename_i hne
      obtain rfl := Option.some.inj h
      rw [Bool.and_eq_true, List.isEmpty_iff, List.isEmpty_iff, Classical.not_and_iff_not_or_not]
        at hne
      have hfraction : ∀ c ∈ rest.takeWhile isDigit, isDigit c = true :=
        List.all_eq_true.1 List.all_takeWhile
      refine ⟨⟨_, _, .pointed hne hwhole hfraction⟩, ⟨rest.dropWhile isDigit, ?_⟩, ?_⟩
      · rw [List.append_assoc, List.cons_append, List.takeWhile_append_dropWhile, hsplit]
      · rintro other ⟨_, _, hother⟩ ⟨more, hmore⟩
        exact hother.length_le_pointed hwhole (hmore.trans hsplit.symm)
  · rename_i hnoPoint
    dsimp only at h
    split at h
    · cases h
    · rename_i hne
      obtain rfl := Option.some.inj h
      rw [List.isEmpty_iff] at hne
      refine ⟨⟨_, _, .whole hne hwhole⟩, ⟨_, hsplit⟩, ?_⟩
      rintro other ⟨_, _, hother⟩ ⟨more, hmore⟩
      exact hother.length_le_whole hwhole hrun hnoPoint (hmore.trans hsplit.symm)

/-- A decimal at the start of a text, as it stands or with further digits, is taken. -/
theorem exists_leadingDecimal? (h : WritesDecimal decimal digits places) (more : List Char) :
    ∃ longest, leadingDecimal? (decimal ++ more) = some longest := by
  unfold leadingDecimal?
  cases h with
  | whole hne hdigits =>
    have hfull : (decimal ++ more).takeWhile isDigit ≠ [] := by
      rw [List.takeWhile_append_of_pos hdigits]
      simp [hne]
    split
    · dsimp only
      rw [if_neg (by simp [hfull])]
      exact ⟨_, rfl⟩
    · dsimp only
      rw [if_neg (by simp [hfull])]
      exact ⟨_, rfl⟩
  | pointed hne hwhole hfraction =>
    rename_i whole fraction
    have hpoint := isDigit_head?_point (fraction ++ more)
    rw [List.append_assoc, List.cons_append, takeWhile_append_of_head? hwhole hpoint,
      dropWhile_append_of_head? hwhole hpoint]
    refine ⟨_, if_neg ?_⟩
    rw [List.takeWhile_append_of_pos hfraction]
    rcases hne with hne | hne <;> simp [hne]

/-! ## Numbers -/

namespace WritesDecimal

/-- A decimal, with what follows it, starts with no sign and no blank. -/
theorem head?_append (h : WritesDecimal decimal digits places) (more : List Char) :
    ∀ c ∈ (decimal ++ more).head?, IsDecimalChar c := by
  obtain ⟨c, others, rfl⟩ := List.exists_cons_of_ne_nil h.ne_nil
  rintro d ⟨⟩
  exact h.chars c List.mem_cons_self

end WritesDecimal

/-- The blanks and the sign before a decimal are kept, and as much of the decimal is taken as
there is. -/
theorem leadingFloat?_append (hblanks : ∀ c ∈ blanks, isBlank c = true)
    (hsign : IsSign sign negative) (hdecimal : WritesDecimal decimal digits places)
    (more : List Char) :
    leadingFloat? (blanks ++ (sign ++ (decimal ++ more))) =
      (leadingDecimal? (decimal ++ more)).map fun longest => blanks ++ sign ++ longest := by
  have hhead := hdecimal.head?_append more
  have hblank := hsign.isBlank_head? fun c hc => (hhead c hc).isBlank_eq_false
  unfold leadingFloat?
  rw [takeWhile_append_of_head? hblanks hblank, dropWhile_append_of_head? hblanks hblank,
    hsign.splitSign_append fun c hc => (hhead c hc).ne_sign]

/-- What is taken from the start of a text is its longest start that is a number. -/
theorem longestStart_of_leadingFloat? (h : leadingFloat? text = some start) :
    LongestStart IsNumberText text start := by
  have hblanks : ∀ c ∈ text.takeWhile isBlank, isBlank c = true :=
    List.all_eq_true.1 List.all_takeWhile
  have hwhole := List.takeWhile_append_dropWhile (p := isBlank) (l := text)
  obtain ⟨sign, negative, body, hsign, hsplit, hbody⟩ := splitSign_cases (text.dropWhile isBlank)
  unfold leadingFloat? at h
  rw [hsplit] at h
  obtain ⟨decimal, hdecimal, rfl⟩ := Option.map_eq_some_iff.1 h
  obtain ⟨⟨digits, places, hform⟩, ⟨more, hmore⟩, hlongest⟩ :=
    longestStart_of_leadingDecimal? hdecimal
  rw [List.append_assoc]
  refine ⟨⟨_, .intro hblanks hsign hform⟩, ⟨more, ?_⟩, ?_⟩
  · rw [List.append_assoc, List.append_assoc, hmore, ← hbody, hwhole]
  · -- The text decides the blanks and the sign of any start that is a number.
    rintro _ ⟨_, hotherBlanks, hotherSign, hotherDecimal⟩ ⟨others, hothers⟩
    rename_i otherBlanks otherSign otherDecimal _ _ _
    have hhead := hotherDecimal.head?_append others
    have hsame : otherBlanks ++ (otherSign ++ (otherDecimal ++ others)) =
        text.takeWhile isBlank ++ text.dropWhile isBlank := by
      rw [hwhole, ← hothers, List.append_assoc, List.append_assoc]
    obtain ⟨hblanksEq, hrest⟩ := run_unique hotherBlanks
      (hotherSign.isBlank_head? fun c hc => (hhead c hc).isBlank_eq_false) hblanks
      (head?_dropWhile text) hsame
    have hsigns := hotherSign.splitSign_append fun c hc => (hhead c hc).ne_sign
    rw [hrest, hsplit] at hsigns
    obtain ⟨hsignEq, hbodyEq⟩ := Prod.mk.inj hsigns
    have hle := hlongest otherDecimal ⟨_, _, hotherDecimal⟩ ⟨others, hbodyEq.symm⟩
    rw [hblanksEq, ← hsignEq, List.length_append, List.length_append, List.length_append,
      List.length_append]
    omega

/-- A number at the start of a text, as it stands or with further digits, is taken. -/
theorem exists_leadingFloat? (hblanks : ∀ c ∈ blanks, isBlank c = true)
    (hsign : IsSign sign negative) (hdecimal : WritesDecimal decimal digits places)
    (more : List Char) :
    ∃ longest, leadingFloat? (blanks ++ (sign ++ (decimal ++ more))) = some longest := by
  obtain ⟨longest, hlongest⟩ := exists_leadingDecimal? hdecimal more
  rw [leadingFloat?_append hblanks hsign hdecimal, hlongest]
  exact ⟨_, rfl⟩

/-- The longest start that is a number is taken. -/
theorem leadingFloat?_eq_some_iff :
    leadingFloat? text = some start ↔ LongestStart IsNumberText text start := by
  refine ⟨longestStart_of_leadingFloat?, fun h => ?_⟩
  obtain ⟨other, hother⟩ : ∃ other, leadingFloat? text = some other := by
    obtain ⟨⟨x, hblanks, hsign, hdecimal⟩, ⟨more, rfl⟩, -⟩ := h
    rw [List.append_assoc, List.append_assoc]
    exact exists_leadingFloat? hblanks hsign hdecimal more
  rw [hother, h.unique (longestStart_of_leadingFloat? hother)]

/-- Nothing is taken exactly if no number comes after the blanks. -/
theorem leadingFloat?_eq_none_iff :
    leadingFloat? text = none ↔ ¬StartsNumber (text.dropWhile isBlank) := by
  constructor
  · intro hnone hstarts
    have hblanks : ∀ c ∈ text.takeWhile isBlank, isBlank c = true :=
      List.all_eq_true.1 List.all_takeWhile
    rw [← List.takeWhile_append_dropWhile (p := isBlank) (l := text)] at hnone
    generalize text.dropWhile isBlank = after at hstarts hnone
    obtain ⟨longest, hlongest⟩ : ∃ longest,
        leadingFloat? (text.takeWhile isBlank ++ after) = some longest := by
      cases hstarts with
      | digit hsign hd =>
        exact exists_leadingFloat? hblanks hsign
          (.whole (List.cons_ne_nil _ []) (List.forall_mem_singleton.2 hd)) _
      | point hsign hd =>
        exact exists_leadingFloat? hblanks hsign
          (.pointed (.inr (List.cons_ne_nil _ [])) (fun c hc => absurd hc List.not_mem_nil)
            (List.forall_mem_singleton.2 hd)) _
    rw [hnone] at hlongest
    cases hlongest
  · intro hno
    refine Option.eq_none_iff_forall_ne_some.2 fun start hsome => hno ?_
    obtain ⟨⟨x, hform⟩, ⟨more, rfl⟩, -⟩ := longestStart_of_leadingFloat? hsome
    obtain ⟨hblanks, hsign, hdecimal⟩ := hform
    have hhead := hdecimal.head?_append more
    rw [List.append_assoc, List.append_assoc, dropWhile_append_of_head? hblanks
      (hsign.isBlank_head? fun c hc => (hhead c hc).isBlank_eq_false)]
    exact hdecimal.startsNumber hsign more

/-! ## Plain forms -/

variable {c : Char}

/-- The separators are the blanks of a text that are no blanks of a number. -/
theorem isSeparator_iff : IsSeparator c ↔ isBlank c = true ∧ isNumberBlank c = false := by
  unfold IsSeparator isBlank isNumberBlank isPlain
  constructor
  · rintro ⟨hlow, hhigh⟩
    have hplain : decide (c.toNat < 0x80) = true := decide_eq_true (by omega)
    rw [if_pos hplain, if_pos hplain]
    simp
    omega
  · rintro ⟨hblank, hnumber⟩
    split at hblank
    · rename_i hplain
      rw [if_pos hplain] at hnumber
      simp at hblank hnumber
      omega
    · rename_i hwide
      rw [if_neg hwide, hblank] at hnumber
      cases hnumber

/-- The plain form of a blank is a blank of a number exactly if the blank is, and a separator is
its own plain form. -/
theorem plainForm_of_isBlank (h : isBlank c = true) :
    isNumberBlank (plainForm c) = isNumberBlank c ∧ (plainForm c = c ∨ plainForm c = ' ') := by
  unfold plainForm
  by_cases hplain : isPlain c = true
  · rw [if_pos hplain]
    exact ⟨rfl, .inl rfl⟩
  · -- A wide blank is no digit, and each of them may surround a number.
    have hnoDigit : digitValue? c = none := by
      refine Option.eq_none_iff_forall_ne_some.2 fun d hd => ?_
      have hdigit : isDigit c = true := by rw [isDigit, hd, Option.isSome_some]
      exact Bool.false_ne_true ((isBlank_eq_false_of_isDigit hdigit).symm.trans h)
    have hnumber : isNumberBlank c = true := by
      rw [isBlank, if_neg hplain] at h
      rw [isNumberBlank, if_neg hplain, h]
    rw [if_neg hplain, hnoDigit]
    dsimp only
    rw [if_pos hnumber, hnumber]
    exact ⟨by decide, .inr rfl⟩

/-- The plain form of a digit is a plain digit of the same value. -/
theorem plainForm_of_isDigit (h : isDigit c = true) :
    (plainForm c).isDigit = true ∧ digitValue? (plainForm c) = digitValue? c := by
  obtain ⟨d, hd⟩ := Option.isSome_iff_exists.1 h
  unfold plainForm
  by_cases hplain : isPlain c = true
  · rw [if_pos hplain]
    refine ⟨?_, rfl⟩
    rw [digitValue?, if_pos hplain] at hd
    split at hd
    · rename_i hrange
      rw [Char.isDigit_iff_toNat]
      simpa using hrange
    · cases hd
  · have hall : ∀ d < 10, (Char.ofNat (0x30 + d)).isDigit = true ∧
        digitValue? (Char.ofNat (0x30 + d)) = some d := by decide
    rw [if_neg hplain, hd]
    exact hall d (digitValue?_lt hd)

/-- The plain form of a character of decimals is a plain digit or the point. -/
theorem IsDecimalChar.plainForm_cases (h : IsDecimalChar c) :
    (plainForm c).isDigit = true ∨ plainForm c = '.' := by
  rcases h with h | rfl
  · exact .inl (plainForm_of_isDigit h).1
  · exact .inr rfl

/-- The plain form of a decimal is a decimal of the plain forms of its digits. -/
theorem WritesDecimal.map_plainForm (h : WritesDecimal decimal digits places) :
    WritesDecimal (decimal.map plainForm) (digits.map plainForm) places := by
  have hplain : ∀ run : List Char, (∀ c ∈ run, isDigit c = true) →
      ∀ c ∈ run.map plainForm, isDigit c = true := fun run hrun =>
    List.forall_mem_map.2 fun c hc => isDigit_of_plain (plainForm_of_isDigit (hrun c hc)).1
  cases h with
  | whole hne hdigits => exact .whole (by simpa using hne) (hplain _ hdigits)
  | pointed hne hwhole hfraction =>
    rename_i whole fraction
    have hlength : fraction.length = (fraction.map plainForm).length := by rw [List.length_map]
    rw [List.map_append, List.map_append, List.map_cons, hlength]
    exact .pointed (by simpa using hne) (hplain _ hwhole) (hplain _ hfraction)

/-- The digits of a decimal are digits. -/
theorem WritesDecimal.isDigit_of_mem (h : WritesDecimal decimal digits places) :
    ∀ c ∈ digits, isDigit c = true := by
  cases h with
  | whole hne hdigits => exact hdigits
  | pointed hne hwhole hfraction => exact List.forall_mem_append.2 ⟨hwhole, hfraction⟩

/-- The plain forms of digits write the same number. -/
theorem digitsValue_map_plainForm (h : ∀ c ∈ digits, isDigit c = true) :
    digitsValue (digits.map plainForm) = digitsValue digits := by
  unfold digitsValue
  rw [List.foldl_map]
  refine List.foldl_ext _ _ 0 fun n c hc => ?_
  rw [(plainForm_of_isDigit (h c hc)).2]

/-- A sign is its own plain form. -/
theorem IsSign.map_plainForm (h : IsSign sign negative) : sign.map plainForm = sign := by
  cases h <;> rfl

/-! ## What surrounds a number -/

/-- What is no blank of a text is no blank of a number. -/
theorem isNumberBlank_eq_false (h : isBlank c = false) : isNumberBlank c = false := by
  rw [← Bool.not_eq_true]
  exact fun hnumber => Bool.false_ne_true (h.symm.trans (isBlank_of_isNumberBlank hnumber))

/-- There is no blank and no underscore in a sign. -/
theorem IsSign.chars (h : IsSign sign negative) : ∀ c ∈ sign, isBlank c = false ∧ c ≠ '_' := by
  cases h with
  | none => exact fun c hc => absurd hc List.not_mem_nil
  | plus => exact List.forall_mem_singleton.2 (by decide)
  | minus => exact List.forall_mem_singleton.2 (by decide)

/-- Nor is there one in a sign and a decimal. -/
theorem WritesDecimal.signed_chars (hdecimal : WritesDecimal decimal digits places)
    (hsign : IsSign sign negative) : ∀ c ∈ sign ++ decimal, isBlank c = false ∧ c ≠ '_' := by
  refine List.forall_mem_append.2 ⟨hsign.chars, fun c hc => ?_⟩
  have hchar := hdecimal.chars c hc
  refine ⟨hchar.isBlank_eq_false, ?_⟩
  rintro rfl
  exact absurd hchar (by decide)

/-- The separators of the text of a number are among its blanks. -/
theorem mem_blanks_of_isSeparator (hsign : IsSign sign negative)
    (hdecimal : WritesDecimal decimal digits places) (hc : c ∈ blanks ++ (sign ++ decimal))
    (hseparator : IsSeparator c) : c ∈ blanks := by
  rcases List.mem_append.1 hc with hc | hc
  · exact hc
  · have hblank := (isSeparator_iff.1 hseparator).1
    rw [(hdecimal.signed_chars hsign c hc).1] at hblank
    cases hblank

/-! ## Reading -/

/-- What surrounds a text at its start is taken away up to the first character that is no edge. -/
theorem trimBy_append {isEdge : Char → Bool} {edges body : List Char} (hne : body ≠ [])
    (hbody : ∀ c ∈ body, isEdge c = false) :
    trimBy isEdge (edges ++ body) = edges.dropWhile isEdge ++ body := by
  have hkept : ∀ kept : List Char, (∀ c ∈ kept.head?, isEdge c = false) →
      kept.dropWhile isEdge = kept := fun kept hkept =>
    dropWhile_append_of_head? (fun c hc => absurd hc List.not_mem_nil) hkept
  have hfront : (edges ++ body).dropWhile isEdge = edges.dropWhile isEdge ++ body := by
    rw [List.dropWhile_append, hkept body fun c hc => hbody c (List.mem_of_mem_head? hc)]
    split
    · rename_i hnil
      rw [List.isEmpty_iff.1 hnil, List.nil_append]
    · rfl
  rw [trimBy, hfront, hkept, List.reverse_reverse]
  intro c hc
  rw [List.head?_reverse, List.getLast?_append_of_ne_nil _ hne] at hc
  exact hbody c (List.mem_of_getLast? hc)

/-- A text without underscores is left. -/
theorem withoutUnderscores?_of_notMem (h : '_' ∉ text) (afterDigit : Bool) :
    withoutUnderscores? afterDigit text = some text := by
  induction text generalizing afterDigit with
  | nil => rfl
  | cons c rest ih =>
    rw [List.mem_cons, not_or] at h
    unfold withoutUnderscores?
    rw [if_neg (by simpa using Ne.symm h.1), ih h.2]
    rfl

/-- No name of a number starts with a character before the letters. -/
theorem namedNumber?_of_lt (h : c.toNat < 0x40) (rest : List Char) :
    namedNumber? negative ((c :: rest).map Char.toLower) = none := by
  have hlower : c.toLower ≠ 'i' ∧ c.toLower ≠ 'n' := by
    have hall : ∀ n < 0x40, (Char.ofNat n).toLower ≠ 'i' ∧ (Char.ofNat n).toLower ≠ 'n' := by
      decide
    have := hall c.toNat h
    rwa [Char.ofNat_toNat] at this
  have hother : ∀ (d : Char) (name : List Char), c.toLower ≠ d →
      (c.toLower :: rest.map Char.toLower == d :: name) = false := fun d name hd =>
    beq_eq_false_iff_ne.2 fun heq => hd (List.cons.inj heq).1
  rw [List.map_cons]
  unfold namedNumber?
  rw [show "inf".toList = 'i' :: ['n', 'f'] from rfl, hother _ _ hlower.1,
    show "infinity".toList = 'i' :: ['n', 'f', 'i', 'n', 'i', 't', 'y'] from rfl,
    hother _ _ hlower.1, show "nan".toList = 'n' :: ['a', 'n'] from rfl, hother _ _ hlower.2]
  rfl

/-- A decimal is read as the number nearest to it. -/
theorem readDecimal?_of_writesDecimal (h : WritesDecimal decimal digits places) :
    readDecimal? negative decimal = some (.ofDecimal negative (digitsValue digits) (-places)) := by
  unfold readDecimal?
  cases h with
  | whole hne hdigits =>
    rw [List.takeWhile_eq_self_iff.2 hdigits, List.dropWhile_eq_nil_iff.2 hdigits]
    show (if decimal.isEmpty && true then none else some (Binary64.ofDecimal negative
      (digitsValue (decimal ++ [])) (0 - 0))) = _
    rw [if_neg (by simpa using hne), List.append_nil]
    rfl
  | pointed hne hwhole hfraction =>
    rename_i whole fraction
    have hpoint := isDigit_head?_point fraction
    rw [takeWhile_append_of_head? hwhole hpoint, dropWhile_append_of_head? hwhole hpoint]
    show (if whole.isEmpty && (fraction.takeWhile isDigit).isEmpty then none
      else (readExponent? (fraction.dropWhile isDigit)).map fun exponent =>
        Binary64.ofDecimal negative (digitsValue (whole ++ fraction.takeWhile isDigit))
          (exponent - (fraction.takeWhile isDigit).length)) = _
    rw [List.takeWhile_eq_self_iff.2 hfraction, List.dropWhile_eq_nil_iff.2 hfraction, if_neg,
      readExponent?, Option.map_some, Int.zero_sub]
    rcases hne with hne | hne <;> simp [hne]

/-- What starts with neither a digit nor a point is no decimal. -/
theorem readDecimal?_of_head (hdigit : isDigit c = false) (hpoint : c ≠ '.') (rest : List Char) :
    readDecimal? negative (c :: rest) = none := by
  have hneg : ¬isDigit c = true := by
    rw [hdigit]
    exact Bool.false_ne_true
  unfold readDecimal?
  rw [List.takeWhile_cons_of_neg hneg, List.dropWhile_cons_of_neg hneg]
  dsimp only
  split
  · rename_i hfront
    exact absurd (List.cons.inj hfront).1 hpoint
  · rfl

/-- The text of a number is read without the blanks before it, up to the first one that is no blank
of a number. -/
theorem readFloat?_append (hblanks : ∀ c ∈ blanks, isBlank c = true)
    (hsign : IsSign sign negative) (hdecimal : WritesDecimal decimal digits places) :
    readFloat? (blanks ++ (sign ++ decimal)) =
      let (minus, body) := takeSign ((blanks.map plainForm).dropWhile isNumberBlank ++
        (sign ++ decimal.map plainForm))
      (namedNumber? minus (body.map Char.toLower)).or (readDecimal? minus body) := by
  have hbody := hdecimal.map_plainForm.signed_chars hsign
  have hne : sign ++ decimal.map plainForm ≠ [] := by simp [hdecimal.ne_nil]
  have hunder : '_' ∉ (blanks.map plainForm).dropWhile isNumberBlank ++
      (sign ++ decimal.map plainForm) := by
    intro hmem
    rcases List.mem_append.1 hmem with hmem | hmem
    · obtain ⟨c, hc, heq⟩ := List.mem_map.1 ((List.dropWhile_suffix _).subset hmem)
      rcases (plainForm_of_isBlank (hblanks c hc)).2 with hself | hspace
      · have hblank := hblanks c hc
        rw [← hself, heq] at hblank
        cases hblank
      · rw [hspace] at heq
        exact absurd heq (by decide)
    · exact (hbody _ hmem).2 rfl
  unfold readFloat?
  rw [List.map_append, List.map_append, hsign.map_plainForm,
    trimBy_append hne fun c hc => isNumberBlank_eq_false (hbody c hc).1,
    withoutUnderscores?_of_notMem hunder, Option.bind_some]

/-- The text of a number without separators is read as the number nearest to what it writes. -/
theorem readFloat?_of_writesNumber {x : Binary64} (h : WritesNumber text x)
    (hseparators : ∀ c ∈ text, ¬IsSeparator c) : readFloat? text = some x := by
  obtain ⟨hblanks, hsign, hdecimal⟩ := h
  rename_i blanks sign decimal digits negative places
  have hdrop : (blanks.map plainForm).dropWhile isNumberBlank = [] := by
    refine List.dropWhile_eq_nil_iff.2 (List.forall_mem_map.2 fun c hc => ?_)
    rw [(plainForm_of_isBlank (hblanks c hc)).1, ← Bool.not_eq_false]
    intro hno
    exact hseparators c (List.mem_append_left _ hc) (isSeparator_iff.2 ⟨hblanks c hc, hno⟩)
  have hplain := hdecimal.map_plainForm
  obtain ⟨c, others, hcons⟩ := List.exists_cons_of_ne_nil hplain.ne_nil
  have hchar := hplain.chars c (hcons ▸ List.mem_cons_self)
  have hlow : c.toNat < 0x40 := by
    obtain ⟨d, hd, rfl⟩ := List.mem_map.1 (hcons ▸ List.mem_cons_self (a := c) (l := others))
    rcases (hdecimal.chars d hd).plainForm_cases with hdigit | hpoint
    · have hnine : '9'.toNat = 0x39 := rfl
      have := (Char.isDigit_iff_toNat.1 hdigit).2
      omega
    · rw [hpoint]
      decide
  have hhead : ∀ d ∈ (decimal.map plainForm).head?, d ≠ '-' ∧ d ≠ '+' := by
    rw [hcons]
    rintro d ⟨⟩
    exact hchar.ne_sign
  rw [readFloat?_append hblanks hsign hdecimal, hdrop, List.nil_append,
    hsign.takeSign_append hhead]
  dsimp only
  rw [readDecimal?_of_writesDecimal hplain, digitsValue_map_plainForm hdecimal.isDigit_of_mem,
    hcons, namedNumber?_of_lt hlow, Option.none_or]

/-- The first separator among blanks stays when the blanks of a number before it are taken away. -/
theorem exists_dropWhile_eq_cons (hblanks : ∀ c ∈ blanks, isBlank c = true) (hc : c ∈ blanks)
    (hseparator : IsSeparator c) :
    ∃ first kept, (blanks.map plainForm).dropWhile isNumberBlank = first :: kept ∧
      IsSeparator first := by
  cases hdrop : (blanks.map plainForm).dropWhile isNumberBlank with
  | nil =>
    have hnumber := List.dropWhile_eq_nil_iff.1 hdrop _ (List.mem_map_of_mem hc)
    rw [(plainForm_of_isBlank (hblanks c hc)).1, (isSeparator_iff.1 hseparator).2] at hnumber
    cases hnumber
  | cons first kept =>
    refine ⟨first, kept, rfl, ?_⟩
    have hno := head?_dropWhile (p := isNumberBlank) (blanks.map plainForm)
    rw [hdrop] at hno
    have hmem : first ∈ blanks.map plainForm := by
      refine (List.dropWhile_suffix isNumberBlank).subset ?_
      rw [hdrop]
      exact List.mem_cons_self
    obtain ⟨d, hd, rfl⟩ := List.mem_map.1 hmem
    rw [isSeparator_iff]
    rcases (plainForm_of_isBlank (hblanks d hd)).2 with hself | hspace
    · rw [hself] at hno ⊢
      exact ⟨hblanks d hd, hno d rfl⟩
    · rw [hspace] at hno
      exact absurd (hno ' ' rfl) (by decide)

/-- What starts with a separator has no sign, and is neither the name of a number nor a decimal. -/
theorem IsSeparator.unread (h : IsSeparator c) (rest : List Char) :
    takeSign (c :: rest) = (false, c :: rest) ∧
      namedNumber? false ((c :: rest).map Char.toLower) = none ∧
      readDecimal? false (c :: rest) = none := by
  refine ⟨takeSign_of_head? ?_, namedNumber?_of_lt (Nat.lt_of_le_of_lt h.2 (by decide)) rest,
    readDecimal?_of_head ?_ ?_ rest⟩
  · rintro d ⟨⟩
    constructor
    · rintro rfl
      exact absurd h (by decide)
    · rintro rfl
      exact absurd h (by decide)
  · rw [← Bool.not_eq_true]
    exact fun hdigit => Bool.false_ne_true
      ((isBlank_eq_false_of_isDigit hdigit).symm.trans (isSeparator_iff.1 h).1)
  · rintro rfl
    exact absurd h (by decide)

/-- The text of a number with a separator is not read. -/
theorem readFloat?_of_separator (h : IsNumberText text) (hseparator : ∃ c ∈ text, IsSeparator c) :
    readFloat? text = none := by
  obtain ⟨x, hblanks, hsign, hdecimal⟩ := h
  obtain ⟨c, hc, hseparator⟩ := hseparator
  have hcBlanks := mem_blanks_of_isSeparator hsign hdecimal hc hseparator
  obtain ⟨first, kept, hdrop, hfirst⟩ := exists_dropWhile_eq_cons hblanks hcBlanks hseparator
  obtain ⟨hnoSign, hnoName, hnoDecimal⟩ := hfirst.unread (kept ++ (_ ++ _))
  rw [readFloat?_append hblanks hsign hdecimal, hdrop, List.cons_append, hnoSign]
  dsimp only
  rw [hnoName, hnoDecimal]
  rfl

/-! ## Plain digits with a point among them -/

section

variable {whole fraction : List Char}

/-- Plain digits with a point among them are a decimal. -/
theorem writesDecimal_of_digits (hwhole : ∀ c ∈ whole, c.isDigit = true)
    (hfraction : ∀ c ∈ fraction, c.isDigit = true) (hne : whole ≠ []) :
    WritesDecimal (whole ++ '.' :: fraction) (whole ++ fraction) fraction.length :=
  .pointed (.inl hne) (fun c hc => isDigit_of_plain (hwhole c hc))
    fun c hc => isDigit_of_plain (hfraction c hc)

/-- They are read as the decimal that they write. -/
theorem readFloat?_of_digits (hwhole : ∀ c ∈ whole, c.isDigit = true)
    (hfraction : ∀ c ∈ fraction, c.isDigit = true) (hne : whole ≠ []) :
    readFloat? (whole ++ '.' :: fraction) =
      some (.ofDecimal false (digitsValue (whole ++ fraction)) (-fraction.length)) := by
  have hdecimal := writesDecimal_of_digits hwhole hfraction hne
  have hwrites : WritesNumber ([] ++ ([] ++ (whole ++ '.' :: fraction)))
      (.ofDecimal false (digitsValue (whole ++ fraction)) (-fraction.length)) :=
    .intro (fun c hc => absurd hc List.not_mem_nil) .none hdecimal
  refine readFloat?_of_writesNumber hwrites fun c hc hseparator => ?_
  exact absurd (mem_blanks_of_isSeparator .none hdecimal hc hseparator) List.not_mem_nil

/-- They are the longest number at the start of a text that goes on with another point. -/
theorem leadingFloat?_of_digits (hwhole : ∀ c ∈ whole, c.isDigit = true)
    (hfraction : ∀ c ∈ fraction, c.isDigit = true) (hne : whole ≠ []) (rest : List Char) :
    leadingFloat? (whole ++ '.' :: (fraction ++ '.' :: rest)) =
      some (whole ++ '.' :: fraction) := by
  have hwholeDigits : ∀ c ∈ whole, isDigit c = true := fun c hc => isDigit_of_plain (hwhole c hc)
  have hfractionDigits : ∀ c ∈ fraction, isDigit c = true :=
    fun c hc => isDigit_of_plain (hfraction c hc)
  have hpoint := isDigit_head?_point (fraction ++ '.' :: rest)
  have htext : whole ++ '.' :: (fraction ++ '.' :: rest) =
      [] ++ ([] ++ (whole ++ '.' :: fraction ++ '.' :: rest)) := by simp
  have hdecimal : leadingDecimal? (whole ++ '.' :: (fraction ++ '.' :: rest)) =
      some (whole ++ '.' :: fraction) := by
    unfold leadingDecimal?
    rw [takeWhile_append_of_head? hwholeDigits hpoint,
      dropWhile_append_of_head? hwholeDigits hpoint]
    show (if whole.isEmpty && ((fraction ++ '.' :: rest).takeWhile isDigit).isEmpty then none
      else some (whole ++ '.' :: (fraction ++ '.' :: rest).takeWhile isDigit)) = _
    rw [takeWhile_append_of_head? hfractionDigits (isDigit_head?_point rest), if_neg]
    simp [hne]
  rw [htext, leadingFloat?_append (fun c hc => absurd hc List.not_mem_nil) .none
    (writesDecimal_of_digits hwhole hfraction hne), List.append_assoc, List.cons_append, hdecimal]
  rfl

end

end TransformPreset
