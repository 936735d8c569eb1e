import Mathlib.Data.List.TakeWhile
import TransformPreset.Json.Reader
import TransformPreset.Proofs.Number.Digits
import TransformPreset.Proofs.Target.Release

/-!
# Decimals in JSON

Digits with a point among them are a number in JSON, namely the number that the digits write
(`Json.read_decimal`), unless they start with a zero before another digit: then the number ends
behind the zero, and what is left makes the text malformed (`Json.read_superfluousZero`).
-/

namespace TransformPreset

/-- Whether digits start with a zero before another digit. -/
def SuperfluousZero (whole : List Char) : Prop :=
  ∃ d more, whole = '0' :: d :: more

namespace Json

variable {d : Char} {whole fraction : List Char}

/-! ## Digits -/

/-- The digits of JSON are the plain ones. -/
theorem isPlainDigit_of_isDigit (h : d.isDigit = true) : isPlainDigit d = true := by
  obtain ⟨hlow, hhigh⟩ := Char.isDigit_iff_toNat.1 h
  exact Bool.and_eq_true_iff.2 ⟨decide_eq_true hlow, decide_eq_true hhigh⟩

/-- Digits at the end of a text are taken to the end. -/
theorem takeWhile_isPlainDigit (hfraction : ∀ c ∈ fraction, c.isDigit = true) :
    fraction.takeWhile isPlainDigit = fraction ∧ fraction.dropWhile isPlainDigit = [] := by
  have hplain : ∀ c ∈ fraction, isPlainDigit c = true :=
    fun c hc => isPlainDigit_of_isDigit (hfraction c hc)
  exact ⟨List.takeWhile_eq_self_iff.2 hplain, List.dropWhile_eq_nil_iff.2 hplain⟩

/-- No blank stands before a digit. -/
theorem skipSpace_of_isDigit (h : d.isDigit = true) (rest : List Char) :
    skipSpace (d :: rest) = d :: rest := by
  refine List.dropWhile_cons_of_neg ?_
  have hother : ∀ c : Char, c.isDigit = false → (d == c) = false :=
    fun c hc => beq_eq_false_iff_ne.2 (ne_of_isDigit h hc)
  rw [isSpace, hother _ rfl, hother _ rfl, hother _ rfl, hother _ rfl]
  exact Bool.false_ne_true

/-- No value that has a name starts with a digit. -/
theorem namedValue?_of_isDigit (h : d.isDigit = true) (rest : List Char) :
    namedValue? (d :: rest) = none := by
  have hnames : ∀ entry ∈ namedValues,
      ∃ c name, entry.1.toList = c :: name ∧ c.isDigit = false := by
    intro entry hentry
    simp only [namedValues, List.mem_cons, List.not_mem_nil, or_false] at hentry
    rcases hentry with rfl | rfl | rfl | rfl | rfl | rfl <;> exact ⟨_, _, rfl, rfl⟩
  rw [namedValue?, List.findSome?_eq_none_iff]
  intro entry hentry
  obtain ⟨c, name, hname, hc⟩ := hnames entry hentry
  have hstart : entry.1.toList.isPrefixOf (d :: rest) = false := by
    have hne : (c == d) = false := beq_eq_false_iff_ne.2 (ne_of_isDigit h hc).symm
    rw [hname, List.isPrefixOf_cons_cons, hne, Bool.false_and]
  dsimp only [afterWord?]
  rw [hstart, if_neg Bool.false_ne_true, Option.map_none]

/-- What starts with a digit is read as a number. -/
theorem readValue_of_isDigit (h : d.isDigit = true) (steps levels : Nat) (rest : List Char) :
    readValue (steps + 1) levels (d :: rest) = readNumber (d :: rest) := by
  have hother : ∀ (c : Char) (text : List Char), c.isDigit = false → d :: rest ≠ c :: text :=
    fun c text hc heq => ne_of_isDigit h hc (List.cons.inj heq).1
  unfold readValue
  split
  · rename_i heq
    exact absurd heq (hother _ _ rfl)
  · rename_i heq
    exact absurd heq (hother _ _ rfl)
  · rename_i heq
    exact absurd heq (hother _ _ rfl)
  · rw [namedValue?_of_isDigit h]

/-- A number that starts with a digit is what its parts make together. -/
theorem readNumber_of_isDigit (h : d.isDigit = true) {text whole afterWhole fraction afterFraction
    exponent left : List Char} (hwhole : takeWhole? (d :: text) = some (whole, afterWhole))
    (hfraction : takeFraction afterWhole = (fraction, afterFraction))
    (hexponent : takeExponent afterFraction = (exponent, left)) :
    readNumber (d :: text) =
      if fraction.isEmpty && exponent.isEmpty then
        match readInt whole with
        | .ok n => .ok (.int n, left)
        | .error digits => .error (.tooManyDigits digits)
      else
        match readFloat? (whole ++ fraction ++ exponent) with
        | some x => .ok (.float x, left)
        | none => .error .malformed := by
  unfold readNumber
  split
  rename_i heq
  split at heq
  · rename_i hsign
    exact absurd hsign (ne_sign_of_isDigit (isDigit_of_plain h) _ _).1
  · obtain ⟨rfl, rfl⟩ := Prod.mk.inj heq
    rw [hwhole]
    dsimp only
    rw [hfraction]
    dsimp only
    rw [hexponent]
    rfl

/-- The value of a text that starts with a digit. -/
theorem read_of_isDigit (h : d.isDigit = true) (rest : List Char) :
    read (String.ofList (d :: rest)) = readNumber (d :: rest) >>= fun found =>
      if (skipSpace found.2).isEmpty then pure found.1 else .error .malformed := by
  rw [read, readWithin, String.toList_ofList, skipSpace_of_isDigit h]
  dsimp only
  rw [readValue_of_isDigit h]

/-! ## Decimals -/

/-- The digits before a point are the whole part of a number. -/
theorem takeWhole?_of_digits (hwhole : ∀ c ∈ whole, c.isDigit = true) (hne : whole ≠ [])
    (hzero : ¬SuperfluousZero whole) (rest : List Char) :
    takeWhole? (whole ++ '.' :: rest) = some (whole, '.' :: rest) := by
  unfold takeWhole?
  split
  · rename_i more heq
    -- A whole part that starts with a zero is that zero.
    cases whole with
    | nil => exact absurd rfl hne
    | cons c digits =>
      obtain ⟨rfl, rfl⟩ := List.cons.inj heq
      cases digits with
      | nil => rfl
      | cons e more => exact absurd ⟨e, more, rfl⟩ hzero
  · have hplain : ∀ c ∈ whole, isPlainDigit c = true :=
      fun c hc => isPlainDigit_of_isDigit (hwhole c hc)
    have hpoint : ∀ c ∈ ('.' :: rest).head?, isPlainDigit c = false := by
      rintro c ⟨⟩
      decide
    have htake := takeWhile_append_of_head? hplain hpoint
    have hdrop := dropWhile_append_of_head? hplain hpoint
    dsimp only
    rw [htake, hdrop, if_neg fun hnil => hne (List.isEmpty_iff.1 hnil)]

/-- Digits with a point among them are read as the number that they write. -/
theorem read_decimal (hwhole : ∀ c ∈ whole, c.isDigit = true)
    (hfraction : ∀ c ∈ fraction, c.isDigit = true) (hwholeNe : whole ≠ [])
    (hfractionNe : fraction ≠ []) (hzero : ¬SuperfluousZero whole) {x : Binary64}
    (hread : readFloat? (whole ++ '.' :: fraction) = some x) :
    read (String.ofList (whole ++ '.' :: fraction)) = .ok (.float x) := by
  obtain ⟨htake, hdrop⟩ := takeWhile_isPlainDigit hfraction
  have hpart : takeFraction ('.' :: fraction) = ('.' :: fraction, []) := by
    show (if (fraction.takeWhile isPlainDigit).isEmpty then ([], '.' :: fraction)
      else ('.' :: fraction.takeWhile isPlainDigit, fraction.dropWhile isPlainDigit)) = _
    rw [htake, hdrop, if_neg fun hnil => hfractionNe (List.isEmpty_iff.1 hnil)]
  have htakeWhole := takeWhole?_of_digits hwhole hwholeNe hzero fraction
  obtain ⟨d, more, rfl⟩ := List.exists_cons_of_ne_nil hwholeNe
  have hd := hwhole d List.mem_cons_self
  rw [List.cons_append] at htakeWhole
  rw [List.cons_append, read_of_isDigit hd, readNumber_of_isDigit hd htakeWhole hpart rfl,
    List.append_nil, hread]
  rfl

/-- A zero before another digit is a number of its own, and what is left is too much. -/
theorem read_superfluousZero (hwhole : ∀ c ∈ whole, c.isDigit = true)
    (hzero : SuperfluousZero whole) (rest : List Char) :
    read (String.ofList (whole ++ rest)) = .error .malformed := by
  obtain ⟨d, more, rfl⟩ := hzero
  have hd : d.isDigit = true := hwhole d (List.mem_cons_of_mem _ List.mem_cons_self)
  have hfraction : takeFraction (d :: (more ++ rest)) = ([], d :: (more ++ rest)) :=
    takeFraction.eq_2 _ fun other heq => ne_of_isDigit hd rfl (List.cons.inj heq).1
  have hexponent : takeExponent (d :: (more ++ rest)) = ([], d :: (more ++ rest)) := by
    have hletter : ¬(d == 'e' || d == 'E') = true := by
      rw [Bool.or_eq_true, beq_iff_eq, beq_iff_eq, not_or]
      exact ⟨ne_of_isDigit hd rfl, ne_of_isDigit hd rfl⟩
    exact if_neg hletter
  have hwhole : takeWhole? ('0' :: d :: (more ++ rest)) = some (['0'], d :: (more ++ rest)) := rfl
  rw [List.cons_append, List.cons_append, read_of_isDigit rfl,
    readNumber_of_isDigit rfl hwhole hfraction hexponent]
  show (if (skipSpace (d :: (more ++ rest))).isEmpty then Except.ok (Value.int 0)
    else Except.error Fault.malformed) = _
  rw [skipSpace_of_isDigit hd]
  rfl

end Json

end TransformPreset
