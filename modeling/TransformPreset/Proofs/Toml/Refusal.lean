import TransformPreset.Proofs.Outcome
import TransformPreset.Toml.Document

/-!
# How TOML documents are refused

Most of what can be wrong with a document is that it is malformed. Besides it may be in another
encoding, hold an integer of too many digits, or be nested too deeply (`Toml.refusals`). Readers are
put together from readers, so each one refuses in these ways because its steps do
(`Toml.read_failsWith`).
-/

namespace TransformPreset

namespace Toml

/-- The kinds of failures that reading a document has. -/
def refusals : List Failure.Kind :=
  [.toml, .encoding, .value, .depth]

variable {α : Type}

/-- To be malformed is one of the refusals. -/
theorem failsWith_malformed :
    FailsWith (Failure.OfKind refusals) (.error .tomlMalformed : Except Failure α) :=
  failsWith_ofKind .toml rfl (by decide)

/-! ## Scalars -/

/-- Skipping a comment refuses a control character in it. -/
theorem skipComment_failsWith (text : List Char) :
    FailsWith (Failure.OfKind refusals) (skipComment text) := by
  unfold skipComment
  split
  · split
    · exact failsWith_malformed
    · exact failsWith_ok _
  · exact failsWith_ok _

/-- So does skipping lines. -/
theorem skipLines_failsWith (inComment : Bool) (text : List Char) :
    FailsWith (Failure.OfKind refusals) (skipLines inComment text) := by
  induction text generalizing inComment with
  | nil => exact failsWith_ok _
  | cons c rest ih =>
    unfold skipLines
    split
    · split
      · exact ih false
      · split
        · exact failsWith_malformed
        · exact ih true
    · split
      · exact ih false
      · split
        · exact ih true
        · exact failsWith_ok _

theorem takeCodePoint_failsWith (count : Nat) (text : List Char) :
    FailsWith (Failure.OfKind refusals) (takeCodePoint count text) := by
  unfold takeCodePoint
  split
  · exact failsWith_malformed
  · split
    · exact failsWith_ok _
    · exact failsWith_malformed

/-- An escape is refused as malformed. -/
theorem takeEscape_failsWith (text : List Char) :
    FailsWith (Failure.OfKind refusals) (takeEscape text) := by
  unfold takeEscape
  split
  · exact takeCodePoint_failsWith _ _
  · exact takeCodePoint_failsWith _ _
  · split
    · exact failsWith_ok _
    · exact failsWith_malformed
  · exact failsWith_malformed

/-- So is a basic string on one line, however much fuel there is. -/
theorem readBasic_failsWith (fuel : Nat) (text : List Char) :
    FailsWith (Failure.OfKind refusals) (readBasic fuel text) := by
  induction fuel generalizing text with
  | zero => exact failsWith_malformed
  | succ fuel ih =>
    unfold readBasic
    split
    · exact failsWith_malformed
    · exact failsWith_ok _
    · exact (takeEscape_failsWith _).bind fun _ _ => (ih _).bind fun _ _ => failsWith_ok _
    · split
      · exact failsWith_malformed
      · exact (ih _).bind fun _ _ => failsWith_ok _

/-- So is one over several lines. -/
theorem readBasicBlock_failsWith (fuel : Nat) (text : List Char) :
    FailsWith (Failure.OfKind refusals) (readBasicBlock fuel text) := by
  induction fuel generalizing text with
  | zero => exact failsWith_malformed
  | succ fuel ih =>
    unfold readBasicBlock
    split
    · exact failsWith_malformed
    · exact failsWith_ok _
    · split
      · exact ih _
      · exact (takeEscape_failsWith _).bind fun _ _ => (ih _).bind fun _ _ => failsWith_ok _
    · split
      · exact failsWith_malformed
      · exact (ih _).bind fun _ _ => failsWith_ok _

/-- So is a literal string on one line. -/
theorem readLiteral_failsWith (text : List Char) :
    FailsWith (Failure.OfKind refusals) (readLiteral text) := by
  induction text with
  | nil => exact failsWith_malformed
  | cons c rest ih =>
    unfold readLiteral
    split
    · exact failsWith_malformed
    · exact failsWith_ok _
    · rename_i hcons
      obtain ⟨-, rfl⟩ := List.cons.inj hcons
      split
      · exact failsWith_malformed
      · exact ih.bind fun _ _ => failsWith_ok _

/-- So is one over several lines. -/
theorem readLiteralBlock_failsWith (text : List Char) :
    FailsWith (Failure.OfKind refusals) (readLiteralBlock text) := by
  induction text with
  | nil => exact failsWith_malformed
  | cons c rest ih =>
    unfold readLiteralBlock
    split
    · exact failsWith_ok _
    · split
      · exact failsWith_malformed
      · exact ih.bind fun _ _ => failsWith_ok _

/-- A string that starts is refused as malformed. -/
theorem readString?_failsWith {text : List Char} {outcome : Except Failure (List Char × List Char)}
    (h : readString? text = some outcome) : FailsWith (Failure.OfKind refusals) outcome := by
  unfold readString? at h
  split at h
  · rw [← Option.some.inj h]
    exact (readBasicBlock_failsWith _ _).map _
  · rw [← Option.some.inj h]
    exact readBasic_failsWith _ _
  · rw [← Option.some.inj h]
    exact (readLiteralBlock_failsWith _).map _
  · rw [← Option.some.inj h]
    exact readLiteral_failsWith _
  · cases h

/-- So is a part of a key. -/
theorem readKeyPart_failsWith (text : List Char) :
    FailsWith (Failure.OfKind refusals) (readKeyPart text) := by
  unfold readKeyPart
  split
  · exact (readBasic_failsWith _ _).map _
  · exact (readLiteral_failsWith _).map _
  · dsimp only
    split
    · exact failsWith_malformed
    · exact failsWith_ok _

/-- So is a key. -/
theorem readKey_failsWith (fuel : Nat) (text : List Char) :
    FailsWith (Failure.OfKind refusals) (readKey fuel text) := by
  induction fuel generalizing text with
  | zero => exact failsWith_malformed
  | succ fuel ih =>
    unfold readKey
    refine (readKeyPart_failsWith _).bind fun _ _ => ?_
    dsimp only
    split
    · exact (ih _).bind fun _ _ => failsWith_ok _
    · exact failsWith_ok _

/-- A decimal number that starts may have too many digits. -/
theorem readDecimal?_failsWith {text : List Char} {outcome : Except Failure (Value × List Char)}
    (h : readDecimal? text = some outcome) : FailsWith (Failure.OfKind refusals) outcome := by
  obtain ⟨⟨whole, after⟩, -, rfl⟩ := Option.map_eq_some_iff.1 h
  dsimp only
  split
  · split
    · exact failsWith_ok _
    · exact failsWith_ofKind .value rfl (by decide)
  · split
    · exact failsWith_ok _
    · exact failsWith_malformed

/-- So may a number. -/
theorem readNumber_failsWith (text : List Char) :
    FailsWith (Failure.OfKind refusals) (readNumber text) := by
  unfold readNumber
  split
  · exact failsWith_ok _
  · split
    · rename_i outcome hdecimal
      exact readDecimal?_failsWith hdecimal
    · split
      · exact failsWith_ok _
      · exact failsWith_malformed

/-- A date that starts may be none of the calendar. -/
theorem readDate?_failsWith {text : List Char} {outcome : Except Failure (Value × List Char)}
    (h : readDate? text = some outcome) : FailsWith (Failure.OfKind refusals) outcome := by
  rcases Option.or_eq_some_iff.1 h with h | ⟨-, h⟩
  · obtain ⟨⟨day, after⟩, -, rfl⟩ := Option.map_eq_some_iff.1 h
    dsimp only
    split
    · exact failsWith_malformed
    · split
      · exact failsWith_ok _
      · exact failsWith_ok _
  · obtain ⟨found, -, rfl⟩ := Option.map_eq_some_iff.1 h
    exact failsWith_ok _

/-- A scalar is refused in these ways. -/
theorem readScalar_failsWith (text : List Char) :
    FailsWith (Failure.OfKind refusals) (readScalar text) := by
  unfold readScalar
  split
  · rename_i outcome hstring
    exact (readString?_failsWith hstring).map _
  · split
    · exact failsWith_ok _
    · split
      · rename_i outcome hdate
        exact readDate?_failsWith hdate
      · exact readNumber_failsWith _

/-! ## Values -/

/-- A room that is too small is a depth. -/
theorem roomAfter_failsWith (taken room : Nat) :
    FailsWith (Failure.OfKind refusals) (roomAfter taken room) := by
  unfold roomAfter
  split
  · exact failsWith_ofKind .depth rfl (by decide)
  · exact failsWith_ok _

/-- How the readers of values refuse with some fuel. -/
structure RefusesValues (fuel : Nat) : Prop where
  /-- A value is refused in these ways. -/
  value : ∀ room text, FailsWith (Failure.OfKind refusals) (readValue fuel room text)
  /-- So are the items of a list. -/
  items : ∀ room text, FailsWith (Failure.OfKind refusals) (readItems fuel room text)
  /-- So is a pair. -/
  pair : ∀ room text, FailsWith (Failure.OfKind refusals) (readPair fuel room text)
  /-- So are the members of an inline table. -/
  members : ∀ room marks table text,
    FailsWith (Failure.OfKind refusals) (readMembers fuel room marks table text)

/-- Values are refused in these ways, however much fuel there is. -/
theorem refusesValues (fuel : Nat) : RefusesValues fuel := by
  induction fuel with
  | zero =>
    refine ⟨fun room text => ?_, fun room text => ?_, fun room text => ?_,
      fun room marks table text => ?_⟩
    · rw [readValue]
      exact failsWith_malformed
    · rw [readItems]
      exact failsWith_malformed
    · rw [readPair]
      exact failsWith_malformed
    · rw [readMembers]
      exact failsWith_malformed
  | succ fuel ih =>
    refine ⟨?value, ?items, ?pair, ?members⟩
    case value =>
      intro room text
      unfold readValue
      split
      · refine (roomAfter_failsWith _ _).bind fun _ _ =>
          (skipLines_failsWith _ _).bind fun _ _ => ?_
        split
        · exact failsWith_ok _
        · exact (ih.items _ _).bind fun _ _ => failsWith_ok _
      · refine (roomAfter_failsWith _ _).bind fun _ _ => ?_
        split
        · exact failsWith_ok _
        · exact (ih.members _ _ _ _).bind fun _ _ => failsWith_ok _
      · exact readScalar_failsWith _
    case items =>
      intro room text
      rw [readItems]
      refine (ih.value _ _).bind fun _ _ => (skipLines_failsWith _ _).bind fun _ _ => ?_
      split
      · exact failsWith_ok _
      · refine (skipLines_failsWith _ _).bind fun _ _ => ?_
        split
        · exact failsWith_ok _
        · exact (ih.items _ _).bind fun _ _ => failsWith_ok _
      · exact failsWith_malformed
    case pair =>
      intro room text
      rw [readPair]
      refine (readKey_failsWith _ _).bind fun _ _ => ?_
      dsimp only
      split
      · exact (ih.value _ _).bind fun _ _ => failsWith_ok _
      · exact failsWith_malformed
    case members =>
      intro room marks table text
      rw [readMembers]
      refine (ih.pair _ _).bind fun _ _ => ?_
      dsimp only
      split
      · exact failsWith_malformed
      · split
        · exact failsWith_malformed
        · split
          · exact failsWith_ok _
          · exact ih.members _ _ _ _
          · exact failsWith_malformed

/-! ## Documents -/

/-- A step that is not allowed is malformed. -/
theorem allowed_failsWith (step : Option Progress) :
    FailsWith (Failure.OfKind refusals) (allowed step) := by
  cases step with
  | some progress => exact failsWith_ok _
  | none => exact failsWith_malformed

/-- So is a wrong header. -/
theorem readHeader_failsWith (progress : Progress) (text : List Char) :
    FailsWith (Failure.OfKind refusals) (readHeader progress text) := by
  unfold readHeader
  split
  · refine (readKey_failsWith _ _).bind fun _ _ => (allowed_failsWith _).bind fun _ _ => ?_
    split
    · exact failsWith_ok _
    · exact failsWith_malformed
  · refine (readKey_failsWith _ _).bind fun _ _ => (allowed_failsWith _).bind fun _ _ => ?_
    split
    · exact failsWith_ok _
    · exact failsWith_malformed

/-- A statement is refused as its values are. -/
theorem readStatement_failsWith (progress : Progress) (text : List Char) :
    FailsWith (Failure.OfKind refusals) (readStatement progress text) := by
  unfold readStatement
  split
  · exact failsWith_ok _
  · exact readHeader_failsWith _ _
  · exact ((refusesValues _).pair _ _).bind fun _ _ =>
      (allowed_failsWith _).bind fun _ _ => failsWith_ok _

/-- All statements are refused as one of them is. -/
theorem readStatements_failsWith (fuel : Nat) (progress : Progress) (text : List Char) :
    FailsWith (Failure.OfKind refusals) (readStatements fuel progress text) := by
  induction fuel generalizing progress text with
  | zero => exact failsWith_malformed
  | succ fuel ih =>
    rw [readStatements]
    split
    · exact failsWith_ok _
    · exact ih _ _
    · refine (readStatement_failsWith _ _).bind fun _ _ =>
        (skipComment_failsWith _).bind fun _ _ => ?_
      split
      · exact failsWith_ok _
      · exact ih _ _
      · exact failsWith_malformed

/-- A document is refused for its form, its encoding, an integer or its depth. -/
theorem read_failsWith (bytes : ByteArray) : FailsWith (Failure.OfKind refusals) (read bytes) := by
  unfold read
  split
  · exact failsWith_ofKind .encoding rfl (by decide)
  · exact readStatements_failsWith _ _ _

end Toml

end TransformPreset
