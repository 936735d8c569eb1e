import TransformPreset.Proofs.Entries
import TransformPreset.Proofs.Text.LongestStart
import TransformPreset.Target.Electron

/-!
# Electron versions by their major and minor number

The reader of an electron version takes the longest start of its text that is digits, a point and
digits (`longestStart_of_majorMinor?`), and there is one as soon as any start has that form
(`majorMinor?_eq_none_iff`). So the minor number is taken whole: `1.10` is never read as `1.1`, and
what follows the minor number does not matter. The chrome version of an electron version is what the
table has under that start; a text without one is malformed, and a start that the table does not
have is unsupported (`chromeOfElectron_byMajorMinor`).
-/

namespace TransformPreset

/-- The texts of digits, a point and digits. -/
inductive IsMajorMinor : List Char → Prop
  /-- The text in its parts. -/
  | intro {major minor : List Char} (hmajorNe : major ≠ []) (hminorNe : minor ≠ [])
    (hmajor : ∀ c ∈ major, isDigit c = true) (hminor : ∀ c ∈ minor, isDigit c = true) :
    IsMajorMinor (major ++ '.' :: minor)

/-- What the chrome version of an electron version is to be for a table of versions. -/
structure ByMajorMinor (table : Entries Value) (chromeOf : String → Except Failure Value) :
    Prop where
  /-- A version is malformed exactly if its text does not start with digits, a point and digits. -/
  malformed_iff : ∀ version,
    (∃ failure, chromeOf version = .error failure ∧ failure.kind = .malformedVersion) ↔
      ¬∃ start, IsMajorMinor start ∧ start <+: (electronText version).toList
  /-- A text that does has a longest start of that form. -/
  exists_longest : ∀ version start, IsMajorMinor start → start <+: (electronText version).toList →
    ∃ longest, LongestStart IsMajorMinor (electronText version).toList longest
  /-- The answer is what the table has under the longest start. -/
  found_iff : ∀ version start chrome,
    LongestStart IsMajorMinor (electronText version).toList start →
      (chromeOf version = .ok chrome ↔ table.get? (String.ofList start) = some chrome)
  /-- The version is unsupported exactly if the table does not have the longest start. -/
  unsupported_iff : ∀ version start,
    LongestStart IsMajorMinor (electronText version).toList start →
      ((∃ failure, chromeOf version = .error failure ∧ failure.kind = .unsupportedVersion) ↔
        String.ofList start ∉ table.keys)
  /-- What follows the minor number does not matter. -/
  suffix : ∀ version suffix : String, IsMajorMinor version.toList →
    (∀ c ∈ suffix.toList.head?, isDigit c = false) →
      chromeOf (version ++ suffix) = chromeOf version
  /-- With one more digit of the minor number, another version is looked up: the longer one. -/
  longer : ∀ (version : String) (d : Char), IsMajorMinor version.toList → isDigit d = true →
    LongestStart IsMajorMinor (electronText (version.push d)).toList (version.push d).toList ∧
      version.push d ≠ version

/-! ## The start that is taken -/

variable {text start major minor rest : List Char}

/-- Digits, a point and digits are taken before anything that does not go on with a digit. -/
theorem majorMinor?_append (hmajorNe : major ≠ []) (hminorNe : minor ≠ [])
    (hmajor : ∀ c ∈ major, isDigit c = true) (hminor : ∀ c ∈ minor, isDigit c = true)
    (hrest : ∀ c ∈ rest.head?, isDigit c = false) :
    majorMinor? (major ++ '.' :: (minor ++ rest)) = some (major ++ '.' :: minor) := by
  have hpoint := isDigit_head?_point (minor ++ rest)
  unfold majorMinor?
  rw [takeWhile_append_of_head? hmajor hpoint, dropWhile_append_of_head? hmajor hpoint]
  show (if major.isEmpty || ((minor ++ rest).takeWhile isDigit).isEmpty then none
    else some (major ++ '.' :: (minor ++ rest).takeWhile isDigit)) = _
  rw [takeWhile_append_of_head? hminor hrest, if_neg]
  simp [hmajorNe, hminorNe]

/-- What is taken is the longest start of the form. -/
theorem longestStart_of_majorMinor? (h : majorMinor? text = some start) :
    LongestStart IsMajorMinor text start := by
  have hmajor : ∀ c ∈ text.takeWhile isDigit, isDigit c = true :=
    List.all_eq_true.1 List.all_takeWhile
  have hsplit := List.takeWhile_append_dropWhile (p := isDigit) (l := text)
  unfold majorMinor? at h
  split at h
  · rename_i rest hrest
    rw [hrest] at hsplit
    dsimp only at h
    split at h
    · cases h
    · rename_i hne
      obtain rfl := Option.some.inj h
      rw [Bool.or_eq_true, not_or, List.isEmpty_iff, List.isEmpty_iff] at hne
      have hminor : ∀ c ∈ rest.takeWhile isDigit, isDigit c = true :=
        List.all_eq_true.1 List.all_takeWhile
      have hminorSplit := List.takeWhile_append_dropWhile (p := isDigit) (l := rest)
      refine ⟨.intro hne.1 hne.2 hmajor hminor, ⟨rest.dropWhile isDigit, ?_⟩, ?_⟩
      · rw [List.append_assoc, List.cons_append, hminorSplit, hsplit]
      · -- Another start of the form has the same major number, and no longer minor number.
        rintro _ ⟨-, -, hotherMajor, hotherMinor⟩ ⟨more, hmore⟩
        rename_i otherMajor otherMinor
        have hsame : otherMajor ++ '.' :: (otherMinor ++ more) =
            text.takeWhile isDigit ++ '.' :: rest := by
          rw [hsplit, ← hmore, List.append_assoc, List.cons_append]
        obtain ⟨hmajors, hminors⟩ := run_unique hotherMajor (isDigit_head?_point _) hmajor
          (isDigit_head?_point _) hsame
        have hle : otherMinor.length ≤ (rest.takeWhile isDigit).length :=
          length_le_run hminor (head?_dropWhile rest) hotherMinor
            ((List.cons.inj hminors).2.trans hminorSplit.symm)
        rw [List.length_append, List.length_append, List.length_cons, List.length_cons, hmajors]
        omega
  · cases h

/-- A start of the form, as it stands or with further digits, is taken. -/
theorem exists_majorMinor? (h : IsMajorMinor start) (hstart : start <+: text) :
    ∃ longest, majorMinor? text = some longest := by
  obtain ⟨hmajorNe, hminorNe, hmajor, hminor⟩ := h
  rename_i major minor
  obtain ⟨rest, rfl⟩ := hstart
  have hwhole : minor ++ rest =
      minor ++ rest.takeWhile isDigit ++ rest.dropWhile isDigit := by
    rw [List.append_assoc, List.takeWhile_append_dropWhile]
  have hdigits : ∀ c ∈ minor ++ rest.takeWhile isDigit, isDigit c = true :=
    List.forall_mem_append.2 ⟨hminor, List.all_eq_true.1 List.all_takeWhile⟩
  rw [List.append_assoc, List.cons_append, hwhole]
  exact ⟨_, majorMinor?_append hmajorNe (by simp [hminorNe]) hmajor hdigits (head?_dropWhile rest)⟩

/-- Nothing is taken exactly if no start has the form. -/
theorem majorMinor?_eq_none_iff :
    majorMinor? text = none ↔ ¬∃ start, IsMajorMinor start ∧ start <+: text := by
  constructor
  · rintro hnone ⟨start, hform, hstart⟩
    obtain ⟨longest, hsome⟩ := exists_majorMinor? hform hstart
    rw [hnone] at hsome
    cases hsome
  · intro hno
    refine Option.eq_none_iff_forall_ne_some.2 fun start hsome => hno ?_
    have hlongest := longestStart_of_majorMinor? hsome
    exact ⟨start, hlongest.hasForm, hlongest.starts⟩

/-- The longest start of the form is taken. -/
theorem majorMinor?_eq_some_iff :
    majorMinor? text = some start ↔ LongestStart IsMajorMinor text start := by
  refine ⟨longestStart_of_majorMinor?, fun h => ?_⟩
  obtain ⟨other, hother⟩ := exists_majorMinor? h.hasForm h.starts
  rw [hother, h.unique (longestStart_of_majorMinor? hother)]

/-! ## The version that is looked up -/

/-- A text with a point in it is not the short form of a version. -/
theorem electronText_of_point {text : List Char} (h : '.' ∈ text) :
    electronText (String.ofList text) = String.ofList text := by
  refine if_neg fun heq => ?_
  rw [← String.toList_ofList (l := text), heq] at h
  exact absurd h (by decide)

namespace IsMajorMinor

variable {version : String}

/-- Further digits belong to the minor number. -/
theorem append_digits (h : IsMajorMinor start) {digits : List Char}
    (hdigits : ∀ c ∈ digits, isDigit c = true) : IsMajorMinor (start ++ digits) := by
  obtain ⟨hmajorNe, hminorNe, hmajor, hminor⟩ := h
  rw [List.append_assoc, List.cons_append]
  exact .intro hmajorNe (by simp [hminorNe]) hmajor (List.forall_mem_append.2 ⟨hminor, hdigits⟩)

/-- A version of the form is taken whole, whatever follows it but a digit. -/
theorem majorMinor?_electronText (h : IsMajorMinor version.toList) {suffix : List Char}
    (hsuffix : ∀ c ∈ suffix.head?, isDigit c = false) :
    majorMinor? (electronText (version ++ String.ofList suffix)).toList = some version.toList := by
  have htext : version ++ String.ofList suffix = String.ofList (version.toList ++ suffix) := by
    rw [String.ofList_append, String.ofList_toList]
  generalize version.toList = chars at h htext
  obtain ⟨hmajorNe, hminorNe, hmajor, hminor⟩ := h
  rw [htext, electronText_of_point (by simp), String.toList_ofList, List.append_assoc,
    List.cons_append]
  exact majorMinor?_append hmajorNe hminorNe hmajor hminor hsuffix

/-- So it is if nothing follows it. -/
theorem majorMinor?_self (h : IsMajorMinor version.toList) :
    majorMinor? (electronText version).toList = some version.toList := by
  have hnone : ∀ c ∈ ([] : List Char).head?, isDigit c = false := by simp
  have hself := h.majorMinor?_electronText hnone
  rwa [String.ofList_nil, String.append_empty] at hself

end IsMajorMinor

variable {table : Entries Value} {version : String}

/-- The chrome version of a text with a start of the form is what a table of versions has under
that start. -/
theorem chromeOfElectron_of_some (htable : ∀ entry ∈ table, ∃ n, Value.number? entry.2 = some n)
    (h : majorMinor? (electronText version).toList = some start) :
    chromeOfElectron table version =
      ((table.get? (String.ofList start)).map Except.ok).getD
        (.error (.electronUnknown (String.ofList start))) := by
  unfold chromeOfElectron
  rw [h]
  dsimp only
  cases hget : table.get? (String.ofList start) with
  | none => rfl
  | some chrome =>
    obtain ⟨n, hn⟩ := htable _ (Entries.mem_of_get? hget)
    -- A number is no null.
    cases chrome with
    | null => cases hn
    | _ => rfl

/-- A version counts by its major and minor number alone. -/
theorem chromeOfElectron_byMajorMinor
    (htable : ∀ entry ∈ table, ∃ n, Value.number? entry.2 = some n) :
    ByMajorMinor table (chromeOfElectron table) where
  malformed_iff version := by
    rw [← majorMinor?_eq_none_iff]
    cases hstart : majorMinor? (electronText version).toList with
    | none =>
      refine iff_of_true ⟨.electronNotVersion, ?_, rfl⟩ rfl
      rw [chromeOfElectron, hstart]
    | some start =>
      refine iff_of_false ?_ (by simp)
      rintro ⟨failure, hfailure, hkind⟩
      rw [chromeOfElectron_of_some htable hstart] at hfailure
      cases hget : table.get? (String.ofList start) with
      | none =>
        rw [hget] at hfailure
        obtain rfl := Except.error.inj hfailure
        cases hkind
      | some chrome =>
        rw [hget] at hfailure
        cases hfailure
  exists_longest version start hform hstart := by
    obtain ⟨longest, hlongest⟩ := exists_majorMinor? hform hstart
    exact ⟨longest, longestStart_of_majorMinor? hlongest⟩
  found_iff version start chrome hlongest := by
    rw [chromeOfElectron_of_some htable (majorMinor?_eq_some_iff.2 hlongest)]
    cases table.get? (String.ofList start) <;> simp
  unsupported_iff version start hlongest := by
    rw [chromeOfElectron_of_some htable (majorMinor?_eq_some_iff.2 hlongest),
      ← Entries.get?_eq_none_iff]
    cases table.get? (String.ofList start) with
    | none => exact iff_of_true ⟨_, rfl, rfl⟩ rfl
    | some chrome => simp
  suffix version suffix hversion hsuffix := by
    have hlong := hversion.majorMinor?_electronText hsuffix
    rw [String.ofList_toList] at hlong
    rw [chromeOfElectron_of_some htable hlong,
      chromeOfElectron_of_some htable hversion.majorMinor?_self]
  longer version d hversion hd := by
    have hpush : (version.push d).toList = version.toList ++ [d] := String.toList_push d
    have hform : IsMajorMinor (version.push d).toList := by
      rw [hpush]
      exact hversion.append_digits (List.forall_mem_singleton.2 hd)
    refine ⟨longestStart_of_majorMinor? hform.majorMinor?_self, fun heq => ?_⟩
    have hlength := congrArg (List.length ∘ String.toList) heq
    simp [hpush] at hlength

/-- A table that tells the minor numbers `1` and `10` apart. -/
def oneTenTable : Entries Value :=
  [("1.1", .int 54), ("1.10", .int 60)]

/-- A patch of the version `1.10` is one of `1.10`, and a patch of `1.1` is one of `1.1`. -/
theorem chromeOfElectron_oneTen :
    (∀ entry ∈ oneTenTable, ∃ n, Value.number? entry.2 = some n) ∧
      ByMajorMinor oneTenTable (chromeOfElectron oneTenTable) ∧
      chromeOfElectron oneTenTable "1.10.3" = .ok (.int 60) ∧
      chromeOfElectron oneTenTable "1.1-beta.10" = .ok (.int 54) := by
  have htable : ∀ entry ∈ oneTenTable, ∃ n, Value.number? entry.2 = some n := by
    intro entry hentry
    rcases List.mem_pair.1 hentry with rfl | rfl
    · exact ⟨.int 54, rfl⟩
    · exact ⟨.int 60, rfl⟩
  exact ⟨htable, chromeOfElectron_byMajorMinor htable, rfl, rfl⟩

end TransformPreset
