import TransformPreset.Proofs.Number.FloatText
import TransformPreset.Proofs.Outcome
import TransformPreset.Target.Runtime

/-!
# Versions by the number at their start

The number at the start of a text is the one that its longest start writes, and there is none
exactly if no number comes after the blanks (`ByLeadingNumber`). It is read so unless one of the
four separators is among the blanks before it (`SeparatorAhead`); then reading fails
(`leadingFloat_eq_error_iff`). The version of the runtime is the number at the start of what it
reports. So it is a number or a wrong configuration unless a separator is there, the answer is no
text, or the system refuses to start the runtime (`ReplyEscapes`, `runtimeVersion_escapes_iff`).
`runtimeVersion_settled` puts the two together.
-/

namespace TransformPreset

/-- What reading the number at the start of a text is to answer. -/
structure ByLeadingNumber (text : List Char) (answer : Except Failure (Option Binary64)) :
    Prop where
  /-- Reading does not fail. -/
  answered : ∃ number?, answer = .ok number?
  /-- There is no number exactly if none comes after the blanks. -/
  absent_iff : answer = .ok none ↔ ¬StartsNumber (text.dropWhile isBlank)
  /-- Otherwise the number is the one that the longest start writes. -/
  number : StartsNumber (text.dropWhile isBlank) →
    ∃ start x, LongestStart IsNumberText text start ∧ WritesNumber start x ∧ answer = .ok (some x)

/-- A version is settled by a number, or by the configuration being wrong. -/
def IsSettled (outcome : Except Failure Binary64) : Prop :=
  (∃ x, outcome = .ok x) ∨ ∃ failure, outcome = .error failure ∧ failure.kind = .config

/-- Whether a number comes after the blanks of a text, and a separator is one of them. -/
def SeparatorAhead (text : List Char) : Prop :=
  StartsNumber (text.dropWhile isBlank) ∧ ∃ c ∈ text.takeWhile isBlank, IsSeparator c

/-- What the version of the runtime is read from: its answer without its edges and the letters
`v`. -/
def reportedVersion (text : String) : List Char :=
  (trim text.toList).dropWhile (· == 'v')

/-- An answer that leaves the version of the runtime unsettled, and the failure. -/
inductive ReplyEscapes : RuntimeReply → Failure → Prop
  /-- The system refuses to start the runtime. -/
  | refused (fault : SystemFault) : ReplyEscapes (.refused fault) (.pathRefused fault runtimePath)
  /-- It prints bytes that are no text. -/
  | undecodable : ReplyEscapes .undecodable .notUtf8
  /-- A separator is ahead of the number in what it reports. -/
  | separator {text : String} {start : List Char} (hahead : SeparatorAhead (reportedVersion text))
    (hlongest : LongestStart IsNumberText (reportedVersion text) start) :
    ReplyEscapes (.printed text) (.floatUnreadable (String.ofList start))

variable {text start : List Char} {x : Binary64} {failure : Failure}

/-! ## The longest start -/

/-- A text with a number after its blanks has a longest start that writes one. -/
theorem exists_longestStart (h : StartsNumber (text.dropWhile isBlank)) :
    ∃ start x, LongestStart IsNumberText text start ∧ WritesNumber start x := by
  obtain ⟨start, hstart⟩ := Option.ne_none_iff_exists'.1
    fun hnone => leadingFloat?_eq_none_iff.1 hnone h
  have hlongest := longestStart_of_leadingFloat? hstart
  obtain ⟨x, hwrites⟩ := hlongest.hasForm
  exact ⟨start, x, hlongest, hwrites⟩

/-- No other text has one. -/
theorem startsNumber_of_longestStart (h : LongestStart IsNumberText text start) :
    StartsNumber (text.dropWhile isBlank) := by
  by_contra hno
  have hsome := leadingFloat?_eq_some_iff.2 h
  rw [leadingFloat?_eq_none_iff.2 hno] at hsome
  cases hsome

/-- The separators of the longest start are those among the blanks of the text. -/
theorem separatorAhead_iff (h : LongestStart IsNumberText text start) :
    SeparatorAhead text ↔ ∃ c ∈ start, IsSeparator c := by
  have hstarts := startsNumber_of_longestStart h
  obtain ⟨⟨x, hblanks, hsign, hdecimal⟩, ⟨more, rfl⟩, -⟩ := h
  rename_i blanks sign decimal digits negative places
  have hhead := hdecimal.head?_append more
  have hrun : (blanks ++ (sign ++ decimal) ++ more).takeWhile isBlank = blanks := by
    rw [List.append_assoc, List.append_assoc]
    exact takeWhile_append_of_head? hblanks
      (hsign.isBlank_head? fun c hc => (hhead c hc).isBlank_eq_false)
  rw [SeparatorAhead, hrun]
  constructor
  · rintro ⟨-, c, hc, hseparator⟩
    exact ⟨c, List.mem_append_left _ hc, hseparator⟩
  · rintro ⟨c, hc, hseparator⟩
    exact ⟨hstarts, c, mem_blanks_of_isSeparator hsign hdecimal hc hseparator, hseparator⟩

/-! ## The number at the start of a text -/

/-- Without a separator ahead, the number that the longest start writes is read. -/
theorem leadingFloat_of_not_separatorAhead (h : ¬SeparatorAhead text)
    (hlongest : LongestStart IsNumberText text start) (hwrites : WritesNumber start x) :
    leadingFloat text = .ok (some x) := by
  have hnone : ∀ c ∈ start, ¬IsSeparator c :=
    fun c hc hseparator => h ((separatorAhead_iff hlongest).2 ⟨c, hc, hseparator⟩)
  unfold leadingFloat
  rw [leadingFloat?_eq_some_iff.2 hlongest]
  dsimp only
  rw [readFloat?_of_writesNumber hwrites hnone]

/-- With one ahead, the longest start is unreadable. -/
theorem leadingFloat_of_separatorAhead (h : SeparatorAhead text)
    (hlongest : LongestStart IsNumberText text start) :
    leadingFloat text = .error (.floatUnreadable (String.ofList start)) := by
  unfold leadingFloat
  rw [leadingFloat?_eq_some_iff.2 hlongest]
  dsimp only
  rw [readFloat?_of_separator hlongest.hasForm ((separatorAhead_iff hlongest).1 h)]

/-- There is no number at the start exactly if none comes after the blanks. -/
theorem leadingFloat_eq_none_iff :
    leadingFloat text = .ok none ↔ ¬StartsNumber (text.dropWhile isBlank) := by
  refine ⟨fun h hstarts => ?_, fun hno => ?_⟩
  · obtain ⟨start, x, hlongest, hwrites⟩ := exists_longestStart hstarts
    by_cases hahead : SeparatorAhead text
    · rw [leadingFloat_of_separatorAhead hahead hlongest] at h
      cases h
    · rw [leadingFloat_of_not_separatorAhead hahead hlongest hwrites] at h
      cases h
  · rw [leadingFloat, leadingFloat?_eq_none_iff.2 hno]

/-- Without a separator ahead, reading answers with the number at the start, if there is one. -/
theorem leadingFloat_byLeadingNumber (h : ¬SeparatorAhead text) :
    ByLeadingNumber text (leadingFloat text) where
  answered := by
    by_cases hstarts : StartsNumber (text.dropWhile isBlank)
    · obtain ⟨start, x, hlongest, hwrites⟩ := exists_longestStart hstarts
      exact ⟨some x, leadingFloat_of_not_separatorAhead h hlongest hwrites⟩
    · exact ⟨none, leadingFloat_eq_none_iff.2 hstarts⟩
  absent_iff := leadingFloat_eq_none_iff
  number hstarts := by
    obtain ⟨start, x, hlongest, hwrites⟩ := exists_longestStart hstarts
    exact ⟨start, x, hlongest, hwrites, leadingFloat_of_not_separatorAhead h hlongest hwrites⟩

/-- Reading fails exactly at a separator ahead, and names the longest start. -/
theorem leadingFloat_eq_error_iff :
    leadingFloat text = .error failure ↔
      SeparatorAhead text ∧ ∃ start, LongestStart IsNumberText text start ∧
        failure = .floatUnreadable (String.ofList start) := by
  constructor
  · intro h
    by_cases hahead : SeparatorAhead text
    · obtain ⟨start, x, hlongest, -⟩ := exists_longestStart hahead.1
      rw [leadingFloat_of_separatorAhead hahead hlongest] at h
      exact ⟨hahead, start, hlongest, (Except.error.inj h).symm⟩
    · obtain ⟨number?, hanswer⟩ := (leadingFloat_byLeadingNumber hahead).answered
      rw [hanswer] at h
      cases h
  · rintro ⟨hahead, start, hlongest, rfl⟩
    exact leadingFloat_of_separatorAhead hahead hlongest

/-! ## The version of the runtime -/

/-- The version in an answer is the number at the start of what it reports, if there is one. -/
theorem runtimeVersion_printed (text : String) :
    (runtimeVersion (.printed text)).result = leadingFloat (reportedVersion text) >>= fun number? =>
      (number?.map Except.ok).getD
        (.error (.runtimeVersionUnreadable (String.ofList (trim text.toList)))) := by
  unfold runtimeVersion
  rw [Traced.bind_result, Traced.of_result, ← reportedVersion]
  cases leadingFloat (reportedVersion text) with
  | error failure => rfl
  | ok number? => cases number? <;> rfl

variable {reply : RuntimeReply}

/-- No fault of the system is a wrong configuration. -/
theorem SystemFault.kind_ne_config (fault : SystemFault) : fault.kind ≠ .config := by
  unfold kind
  split <;> decide

/-- What leaves the version unsettled is no wrong configuration. -/
theorem ReplyEscapes.kind_ne_config (h : ReplyEscapes reply failure) : failure.kind ≠ .config := by
  cases h with
  | refused fault => exact fault.kind_ne_config
  | undecodable => decide
  | separator => rintro ⟨⟩

/-- An answer that leaves the version unsettled is the failure of asking for it. -/
theorem ReplyEscapes.result_eq (h : ReplyEscapes reply failure) :
    (runtimeVersion reply).result = .error failure := by
  cases h with
  | refused fault => rfl
  | undecodable => rfl
  | separator hahead hlongest =>
    rw [runtimeVersion_printed, leadingFloat_of_separatorAhead hahead hlongest]
    rfl

/-- Any other failure is a wrong configuration. -/
theorem replyEscapes_of_kind_ne (h : (runtimeVersion reply).result = .error failure)
    (hkind : failure.kind ≠ .config) : ReplyEscapes reply failure := by
  cases reply with
  | missing => exact absurd (Except.error.inj h ▸ rfl) hkind
  | failed fault => exact absurd (Except.error.inj h ▸ rfl) hkind
  | refused fault =>
    obtain rfl := Except.error.inj h
    exact .refused fault
  | undecodable =>
    obtain rfl := Except.error.inj h
    exact .undecodable
  | printed text =>
    rw [runtimeVersion_printed, except_bind_error_iff] at h
    rcases h with hread | ⟨number?, -, hversion⟩
    · obtain ⟨hahead, start, hlongest, rfl⟩ := leadingFloat_eq_error_iff.1 hread
      exact .separator hahead hlongest
    · -- Without a number, the answer is a wrong configuration.
      cases number? with
      | none =>
        cases hversion
        exact absurd rfl hkind
      | some y => cases hversion

/-- A failure is no wrong configuration exactly if the answer is one that leaves the version
unsettled. -/
theorem runtimeVersion_escapes_iff :
    (runtimeVersion reply).result = .error failure ∧ failure.kind ≠ .config ↔
      ReplyEscapes reply failure :=
  ⟨fun ⟨h, hkind⟩ => replyEscapes_of_kind_ne h hkind, fun h => ⟨h.result_eq, h.kind_ne_config⟩⟩

/-- The version of the runtime is settled exactly unless its answer is one of those. -/
theorem isSettled_runtimeVersion_iff :
    IsSettled (runtimeVersion reply).result ↔ ¬∃ failure, ReplyEscapes reply failure := by
  constructor
  · rintro hsettled ⟨failure, hescapes⟩
    have hfailure := hescapes.result_eq
    rcases hsettled with ⟨y, hy⟩ | ⟨other, hother, hconfig⟩
    · rw [hfailure] at hy
      cases hy
    · rw [hfailure] at hother
      obtain rfl := Except.error.inj hother
      exact hescapes.kind_ne_config hconfig
  · intro hno
    cases hresult : (runtimeVersion reply).result with
    | ok x => exact .inl ⟨x, rfl⟩
    | error failure =>
      refine .inr ⟨failure, rfl, ?_⟩
      by_contra hkind
      exact hno ⟨failure, replyEscapes_of_kind_ne hresult hkind⟩

/-- The number at the start of a text is read unless a separator is ahead of it; then the start of
the text that is the number is unreadable. The version of the runtime is settled unless that happens
in what the runtime reports, its answer is no text, or it cannot be started. -/
theorem runtimeVersion_settled (text : List Char) (reply : RuntimeReply) :
    (ByLeadingNumber text (leadingFloat text) ↔ ¬SeparatorAhead text) ∧
      (∀ failure, leadingFloat text = .error failure ↔
        SeparatorAhead text ∧ ∃ start, LongestStart IsNumberText text start ∧
          failure = .floatUnreadable (String.ofList start)) ∧
      (IsSettled (runtimeVersion reply).result ↔ ¬∃ failure, ReplyEscapes reply failure) ∧
      ∀ failure, (runtimeVersion reply).result = .error failure ∧ failure.kind ≠ .config ↔
        ReplyEscapes reply failure := by
  refine ⟨⟨fun h hahead => ?_, leadingFloat_byLeadingNumber⟩,
    fun failure => leadingFloat_eq_error_iff, isSettled_runtimeVersion_iff,
    fun failure => runtimeVersion_escapes_iff⟩
  obtain ⟨number?, hanswer⟩ := h.answered
  obtain ⟨start, x, hlongest, -⟩ := exists_longestStart hahead.1
  rw [leadingFloat_of_separatorAhead hahead hlongest] at hanswer
  cases hanswer

/-- A digit comes after the separator, but no number is read there, and a runtime that answers so
leaves its version unsettled. -/
theorem leadingFloat_separator :
    StartsNumber ("\x1c5".toList.dropWhile isBlank) ∧
      leadingFloat "\x1c5".toList = .error (.floatUnreadable "\x1c5") ∧
      ¬ByLeadingNumber "\x1c5".toList (leadingFloat "\x1c5".toList) ∧
      (runtimeVersion (.printed "v\x1c18.17.1\n")).result =
        .error (.floatUnreadable "\x1c18.17") ∧
      ¬IsSettled (runtimeVersion (.printed "v\x1c18.17.1\n")).result := by
  have hfails : leadingFloat "\x1c5".toList = .error (.floatUnreadable "\x1c5") := rfl
  have hversion : (runtimeVersion (.printed "v\x1c18.17.1\n")).result =
      .error (.floatUnreadable "\x1c18.17") := rfl
  refine ⟨.digit .none (by decide), hfails, ?_, hversion, ?_⟩
  · intro h
    obtain ⟨number?, hanswer⟩ := h.answered
    rw [hfails] at hanswer
    cases hanswer
  · rintro (⟨x, hx⟩ | ⟨failure, hfailure, hkind⟩)
    · rw [hversion] at hx
      cases hx
    · rw [hversion] at hfailure
      obtain rfl := Except.error.inj hfailure
      cases hkind

end TransformPreset
