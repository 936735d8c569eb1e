import TransformPreset.Command.Gather
import TransformPreset.Proofs.Json.Number
import TransformPreset.Proofs.Number.Forms
import TransformPreset.Proofs.Preset.Completion
import TransformPreset.Proofs.Target.Canonical
import TransformPreset.Proofs.Target.Electron

/-!
# Electron versions on the command line

A target argument for electron is read as JSON, so its version becomes a number, and the number is
written out again before its version is looked up. The library is given the text and looks that up.
`Normalizer.normalize_electronArgument` says exactly when the two mean the same, for a version of
digits with a point among them. A zero before the major number keeps the argument a text. The number
of a version in the shipped table is written as that version (`written_of_shipped`). Any other
version is unknown to the library, and so is its number unless it is misread: `Misread` has one case
for each form of a number that goes wrong (`sameOutcome_unknown_iff`).
-/

namespace TransformPreset

/-! ## Outcomes -/

/-- Whether two outcomes are the same to a caller: one answer, or failures of one kind. -/
def SameOutcome {α : Type} : Except Failure α → Except Failure α → Prop
  | .ok a, .ok b => a = b
  | .error first, .error second => first.kind = second.kind
  | _, _ => False

namespace SameOutcome

variable {α β : Type}

/-- An outcome is the same as itself. -/
theorem refl (x : Except Failure α) : SameOutcome x x := by
  cases x <;> rfl

/-- Mapping answers keeps them apart if the map does. -/
theorem map_iff {f : α → β} (hf : Function.Injective f) (x y : Except Failure α) :
    SameOutcome (x.map f) (y.map f) ↔ SameOutcome x y := by
  cases x <;> cases y
  case ok.ok a b => exact hf.eq_iff
  all_goals exact Iff.rfl

end SameOutcome

/-! ## Versions -/

variable {whole fraction : List Char} {table : Entries Value}

/-- The major and minor number of a version, before anything that goes on with no digit. -/
theorem majorMinor?_of_digits (hwhole : ∀ c ∈ whole, c.isDigit = true)
    (hfraction : ∀ c ∈ fraction, c.isDigit = true) (hwholeNe : whole ≠ [])
    (hfractionNe : fraction ≠ []) {rest : List Char}
    (hrest : ∀ c ∈ rest.head?, isDigit c = false) :
    majorMinor? (electronText (String.ofList (whole ++ '.' :: (fraction ++ rest)))).toList =
      some (whole ++ '.' :: fraction) := by
  have hpoint : '.' ∈ whole ++ '.' :: (fraction ++ rest) :=
    List.mem_append_right _ List.mem_cons_self
  rw [electronText_of_point hpoint, String.toList_ofList]
  exact majorMinor?_append hwholeNe hfractionNe (fun c hc => isDigit_of_plain (hwhole c hc))
    (fun c hc => isDigit_of_plain (hfraction c hc)) hrest

/-- A version that is digits with a point among them is its own major and minor number. -/
theorem majorMinor?_decimal (hwhole : ∀ c ∈ whole, c.isDigit = true)
    (hfraction : ∀ c ∈ fraction, c.isDigit = true) (hwholeNe : whole ≠ [])
    (hfractionNe : fraction ≠ []) :
    majorMinor? (electronText (String.ofList (whole ++ '.' :: fraction))).toList =
      some (whole ++ '.' :: fraction) := by
  have hrest : ∀ c ∈ ([] : List Char).head?, isDigit c = false := by simp
  have h := majorMinor?_of_digits hwhole hfraction hwholeNe hfractionNe hrest
  rwa [List.append_nil] at h

/-- A digit before an exponent is no major and minor number. -/
theorem majorMinor?_of_single {d : Char} (hd : d.isDigit = true) (exponent : List Char) :
    majorMinor? (electronText (String.ofList (d :: 'e' :: exponent))).toList = none := by
  have hlong : electronText (String.ofList (d :: 'e' :: exponent)) =
      String.ofList (d :: 'e' :: exponent) := by
    refine if_neg fun heq => ?_
    have hlist : d :: 'e' :: exponent = ['1'] := by
      rw [← String.toList_ofList (l := d :: 'e' :: exponent), heq]
      rfl
    cases hlist
  rw [hlong, String.toList_ofList]
  unfold majorMinor?
  rw [List.dropWhile_cons_of_pos (isDigit_of_plain hd), List.dropWhile_cons_of_neg (by decide)]
  rfl

/-- A version without a major and a minor number is refused. -/
theorem chromeOfElectron_of_none {version : String}
    (h : majorMinor? (electronText version).toList = none) :
    chromeOfElectron table version = .error .electronNotVersion := by
  unfold chromeOfElectron
  rw [h]

/-! ## The shipped table -/

/-- The chrome version of a shipped electron version is there. -/
theorem chromeOfElectron_shipped {version : String} {majorMinor : List Char}
    (h : majorMinor? (electronText version).toList = some majorMinor) :
    (String.ofList majorMinor ∈ shippedTables.electron.keys ∧
      ∃ chrome, chromeOfElectron shippedTables.electron version = .ok chrome) ∨
    (String.ofList majorMinor ∉ shippedTables.electron.keys ∧
      chromeOfElectron shippedTables.electron version =
        .error (.electronUnknown (String.ofList majorMinor))) := by
  unfold chromeOfElectron
  rw [h]
  dsimp only
  by_cases hkey : String.ofList majorMinor ∈ shippedTables.electron.keys
  · refine .inl ⟨hkey, ?_⟩
    obtain ⟨chrome, hchrome⟩ :=
      Option.isSome_iff_exists.1 ((Entries.has_iff shippedTables.electron _).2 hkey)
    obtain ⟨n, hn⟩ := (Session.shipped_numeric 0).electron _ (Entries.mem_of_get? hchrome)
    rw [hchrome]
    cases chrome with
    | null => cases hn
    | _ => exact ⟨_, rfl⟩
  · refine .inr ⟨hkey, ?_⟩
    rw [(Entries.get?_eq_none_iff _ _).2 hkey]

/-- What is a version ends as an unknown one does exactly if the table does not have it. -/
theorem sameOutcome_unknown_iff_notMem {version : String} {majorMinor : List Char}
    (h : majorMinor? (electronText version).toList = some majorMinor) (unknown : String) :
    SameOutcome (chromeOfElectron shippedTables.electron version)
        (.error (.electronUnknown unknown)) ↔
      String.ofList majorMinor ∉ shippedTables.electron.keys := by
  rcases chromeOfElectron_shipped h with ⟨hkey, chrome, hchrome⟩ | ⟨hkey, hunknown⟩
  · rw [hchrome]
    exact iff_of_false id (not_not_intro hkey)
  · rw [hunknown]
    exact iff_of_true rfl hkey

/-- What is no version ends in another way. -/
theorem not_sameOutcome_unknown_of_none {version : String}
    (h : majorMinor? (electronText version).toList = none) (unknown : String) :
    ¬SameOutcome (chromeOfElectron table version) (.error (.electronUnknown unknown)) := by
  rw [chromeOfElectron_of_none h]
  intro hsame
  cases hsame

/-- The shipped electron versions are written without an exponent. -/
theorem notMem_e_of_shipped : ∀ key ∈ shippedTables.electron.keys, 'e' ∉ key.toList := by
  decide

/-- The number of a shipped electron version is written as that version. -/
theorem written_of_shipped {key : String} (hkey : key ∈ shippedTables.electron.keys)
    {x : Binary64} (hread : readFloat? key.toList = some x) : x.written = key := by
  have hall : (shippedTables.electron.keys.all fun key =>
      (readFloat? key.toList).all fun x => x.written == key) = true := by
    decide +kernel
  have hone := List.all_eq_true.1 hall key hkey
  rw [hread] at hone
  exact eq_of_beq hone

/-! ## Numbers -/

/-- How a number that is written out is taken for something else than an unknown version: for no
version at all, or for a version in the table. -/
inductive Misread (table : Entries Value) (x : Binary64) : Prop
  /-- The name of an infinity is no version. -/
  | infinite (h : x = .infinite false)
  /-- Neither is a single digit with an exponent. -/
  | single (d : Char) (exponent : List Char) (h : x.written.toList = d :: 'e' :: exponent)
  /-- The number is that of a version in the table. -/
  | version (key : String) (hkey : key ∈ table.keys) (hread : readFloat? key.toList = some x)
  /-- A version in the table stands before an exponent. -/
  | beforeExponent (key : String) (hkey : key ∈ table.keys) (exponent : List Char)
      (h : x.written.toList = key.toList ++ 'e' :: exponent)

/-- There is no exponent among digits and a point. -/
theorem exponent_notMem (hwhole : ∀ c ∈ whole, c.isDigit = true)
    (hfraction : ∀ c ∈ fraction, c.isDigit = true) : 'e' ∉ whole ++ '.' :: fraction := by
  rw [List.mem_append, List.mem_cons]
  rintro (h | h | h)
  · exact absurd (hwhole _ h) (by decide)
  · exact absurd h (by decide)
  · exact absurd (hfraction _ h) (by decide)

/-- Digits with a point among them that are no version of the table are not misread. -/
theorem not_misread_of_pointed {x : Binary64} (hwhole : ∀ c ∈ whole, c.isDigit = true)
    (hfraction : ∀ c ∈ fraction, c.isDigit = true)
    (hwritten : x.written.toList = whole ++ '.' :: fraction)
    (hunknown : x.written ∉ shippedTables.electron.keys) :
    ¬Misread shippedTables.electron x := by
  have hletter : 'e' ∉ x.written.toList := by
    rw [hwritten]
    exact exponent_notMem hwhole hfraction
  rintro (rfl | ⟨d, exponent, h⟩ | ⟨key, hkey, hread⟩ | ⟨key, -, exponent, h⟩)
  · have hpoint : '.' ∈ (Binary64.written (.infinite false)).toList := by
      rw [hwritten]
      exact List.mem_append_right _ List.mem_cons_self
    exact absurd hpoint (by decide)
  · exact hletter (h ▸ List.mem_cons_of_mem _ List.mem_cons_self)
  · exact hunknown (written_of_shipped hkey hread ▸ hkey)
  · exact hletter (h ▸ List.mem_append_right _ List.mem_cons_self)

/-- Nor are digits with a point before an exponent. -/
theorem not_misread_of_scientific {x : Binary64} {d : Char} {more exponent : List Char}
    (hd : d.isDigit = true) (hmore : ∀ c ∈ more, c.isDigit = true)
    (hwritten : x.written.toList = d :: '.' :: (more ++ 'e' :: exponent))
    (hunknown : String.ofList (d :: '.' :: more) ∉ shippedTables.electron.keys) :
    ¬Misread shippedTables.electron x := by
  have hfirst : ∀ c ∈ [d], c.isDigit = true := fun c hc => List.mem_singleton.1 hc ▸ hd
  have hletter : 'e' ∈ x.written.toList := by
    rw [hwritten]
    simp
  have hstart : 'e' ∉ d :: '.' :: more := exponent_notMem hfirst hmore
  rintro (rfl | ⟨d, exponent, h⟩ | ⟨key, hkey, hread⟩ | ⟨key, hkey, exponent, h⟩)
  · exact absurd hletter (by decide)
  · rw [hwritten] at h
    exact absurd (List.cons.inj (List.cons.inj h).2).1 (by decide)
  · rw [written_of_shipped hkey hread] at hletter
    exact notMem_e_of_shipped key hkey hletter
  · -- Both texts are cut at their only letter.
    have hcut := partitionAt_eq_some_iff.2 ⟨h, notMem_e_of_shipped key hkey⟩
    have hsame := partitionAt_eq_some_iff.2 ⟨hwritten, hstart⟩
    have hkeyEq : key.toList = d :: '.' :: more := congrArg Prod.fst (hcut.symm.trans hsame)
    rw [← hkeyEq, String.ofList_toList] at hunknown
    exact hunknown hkey

/-- A number that is written in one of the forms is as unknown as a version that the table does not
have, exactly if it is not misread. -/
theorem sameOutcome_unknown_iff {x : Binary64} (hform : x.Form x.written.toList)
    (version : String) :
    SameOutcome (chromeOfElectron shippedTables.electron x.written)
        (.error (.electronUnknown version)) ↔
      ¬Misread shippedTables.electron x := by
  generalize hwritten : x.written.toList = text at hform
  have htext : x.written = String.ofList text := by rw [← hwritten, String.ofList_toList]
  cases hform with
  | infinite h =>
    have hnone : majorMinor? (electronText x.written).toList = none := by
      rw [htext]
      decide
    exact iff_of_false (not_sameOutcome_unknown_of_none hnone _) (not_not_intro (.infinite h))
  | single hd exponent =>
    have hnone : majorMinor? (electronText x.written).toList = none := by
      rw [htext]
      exact majorMinor?_of_single hd exponent
    exact iff_of_false (not_sameOutcome_unknown_of_none hnone _)
      (not_not_intro (.single _ _ hwritten))
  | pointed hwholeNe hfractionNe hwhole hfraction hread =>
    have hmajorMinor := majorMinor?_decimal hwhole hfraction hwholeNe hfractionNe
    rw [← htext] at hmajorMinor
    rw [sameOutcome_unknown_iff_notMem hmajorMinor]
    refine ⟨fun hkey => ?_, fun hmisread hkey => hmisread (.version _ hkey ?_)⟩
    · exact not_misread_of_pointed hwhole hfraction hwritten (htext ▸ hkey)
    · rw [String.toList_ofList]
      exact hread
  | @scientific d more hd hne hmore exponent =>
    have hfirst : ∀ c ∈ [d], c.isDigit = true := fun c hc => List.mem_singleton.1 hc ▸ hd
    have hrest : ∀ c ∈ ('e' :: exponent).head?, isDigit c = false := by
      intro c hc
      obtain rfl := Option.some.inj hc
      decide
    have hmajorMinor := majorMinor?_of_digits hfirst hmore (List.cons_ne_nil _ _) hne hrest
    rw [List.singleton_append, ← htext] at hmajorMinor
    rw [sameOutcome_unknown_iff_notMem hmajorMinor]
    refine ⟨fun hkey => ?_, fun hmisread hkey => hmisread (.beforeExponent _ hkey exponent ?_)⟩
    · exact not_misread_of_scientific hd hmore hwritten hkey
    · rw [hwritten, String.toList_ofList]
      simp

/-! ## Arguments -/

/-- An argument for electron gives the value of its text. -/
theorem readTargetArguments_electron {text : List Char} {value : Value}
    (hvalue : targetValue electronKey (String.ofList text) = .ok value) :
    readTargetArguments ["electron=" ++ String.ofList text] = .ok [(electronKey, value)] := by
  have hpartition : partitionAt '=' ("electron=" ++ String.ofList text).toList =
      (electronKey.toList, some text) := by
    rw [partitionAt_eq_some_iff, String.toList_append, String.toList_ofList (l := text)]
    exact ⟨rfl, by decide⟩
  have hsplit : splitTarget ("electron=" ++ String.ofList text) =
      .ok (electronKey, String.ofList text) := by
    rw [splitTarget, hpartition]
    rfl
  have hkey : electronKey ≠ browsersKey := by decide
  simp only [readTargetArguments, addTargets, hsplit, hvalue, Bind.bind, Except.bind, if_neg hkey]
  rfl

/-- The value of a decimal with a zero too many is its text. -/
theorem targetValue_superfluousZero (hwhole : ∀ c ∈ whole, c.isDigit = true)
    (hzero : SuperfluousZero whole) :
    targetValue electronKey (String.ofList (whole ++ '.' :: fraction)) =
      .ok (.text (String.ofList (whole ++ '.' :: fraction))) := by
  rw [targetValue, Json.read_superfluousZero hwhole hzero]

/-- The value of any other decimal is its number. -/
theorem targetValue_decimal (hwhole : ∀ c ∈ whole, c.isDigit = true)
    (hfraction : ∀ c ∈ fraction, c.isDigit = true) (hwholeNe : whole ≠ [])
    (hfractionNe : fraction ≠ []) (hzero : ¬SuperfluousZero whole) {x : Binary64}
    (hread : readFloat? (whole ++ '.' :: fraction) = some x) :
    targetValue electronKey (String.ofList (whole ++ '.' :: fraction)) = .ok (.float x) := by
  rw [targetValue, Json.read_decimal hwhole hfraction hwholeNe hfractionNe hzero hread]
  rfl

namespace Normalizer

variable {normalizer : Normalizer}

/-- Targets with nothing but an electron version become the chrome version that it stands for. -/
theorem normalize_electron {value : Value} {version : String}
    (h : readElectron normalizer.writing value = .ok (some version)) :
    (normalizer.normalize (.map [(electronKey, value)])).result =
      (chromeOfElectron normalizer.electron version).map fun chrome => [("chrome", chrome)] := by
  have hkey : electronKey ≠ browsersKey := by decide
  have hread : (TargetSpec.read normalizer.writing (.map [(electronKey, value)])).result =
      .ok { electron := some version } := by
    refine Traced.bind_result_ok_iff.2 ⟨{ electron := some version }, ?_, rfl⟩
    unfold TargetSpec.readEntry
    rw [if_neg hkey, if_pos rfl]
    exact Traced.bind_result_ok_iff.2 ⟨_, h, rfl⟩
  rw [normalize, Traced.bind_ok hread]
  show (normalizer.withElectron [] version >>= pure).result = _
  rw [bind_pure, withElectron]
  cases chromeOfElectron normalizer.electron version <;> rfl

/-- An electron version of digits with a point among them means the same as a target argument and as
a target exactly if the argument leaves it a text, or the table has it, or its number is not
misread. -/
theorem normalize_electronArgument (helectron : normalizer.electron = shippedTables.electron)
    {major minor : List Char} (hmajor : ∀ c ∈ major, c.isDigit = true)
    (hminor : ∀ c ∈ minor, c.isDigit = true) (hmajorNe : major ≠ []) (hminorNe : minor ≠ []) :
    ∃ targets,
      readTargetArguments ["electron=" ++ String.ofList (major ++ '.' :: minor)] = .ok targets ∧
      (SameOutcome (normalizer.normalize (.map targets)).result
          (normalizer.normalize
            (.map [(electronKey, .text (String.ofList (major ++ '.' :: minor)))])).result ↔
        SuperfluousZero major ∨
          String.ofList (major ++ '.' :: minor) ∈ shippedTables.electron.keys ∨
          ∀ x, readFloat? (major ++ '.' :: minor) = some x →
            ¬Misread shippedTables.electron x) := by
  by_cases hzero : SuperfluousZero major
  · refine ⟨_, readTargetArguments_electron (targetValue_superfluousZero hmajor hzero), ?_⟩
    exact iff_of_true (.refl _) (.inl hzero)
  have hread := readFloat?_of_digits hmajor hminor hmajorNe
  have hform := Binary64.form_ofDecimal (digitsValue (major ++ minor)) (-minor.length)
  generalize Binary64.ofDecimal false (digitsValue (major ++ minor)) (-minor.length) = x
    at hread hform
  refine ⟨_, readTargetArguments_electron
    (targetValue_decimal hmajor hminor hmajorNe hminorNe hzero hread), ?_⟩
  have hnumber : readElectron normalizer.writing (.float x) = .ok (some x.written) := rfl
  have hchrome : Function.Injective fun chrome : Value => [("chrome", chrome)] :=
    fun _ _ h => (Prod.mk.inj (List.cons.inj h).1).2
  rw [normalize_electron hnumber, normalize_electron rfl, SameOutcome.map_iff hchrome, helectron]
  rcases chromeOfElectron_shipped (majorMinor?_decimal hmajor hminor hmajorNe hminorNe) with
    ⟨hkey, -⟩ | ⟨hkey, hunknown⟩
  · -- The number of a version in the table is written as that version.
    have hwritten : x.written = String.ofList (major ++ '.' :: minor) :=
      written_of_shipped hkey ((congrArg readFloat? String.toList_ofList).trans hread)
    rw [hwritten]
    exact iff_of_true (.refl _) (.inr (.inl hkey))
  · rw [hunknown, sameOutcome_unknown_iff hform]
    refine ⟨fun h => .inr (.inr fun other hother => ?_), fun h => ?_⟩
    · obtain rfl := Option.some.inj (hread.symm.trans hother)
      exact h
    · exact (h.resolve_left hzero).resolve_left hkey x hread

/-- A version that the table has, one that stays a text, and one whose number is as unknown as it is
mean the same both ways. -/
theorem shipped_normalize_electronArgument :
    (∃ targets, readTargetArguments ["electron=1.4"] = .ok targets ∧
      SameOutcome ((Session.shipped 18).normalizer.normalize (.map targets)).result
        ((Session.shipped 18).normalizer.normalize (.map [(electronKey, .text "1.4")])).result) ∧
    (∃ targets, readTargetArguments ["electron=01.4"] = .ok targets ∧
      SameOutcome ((Session.shipped 18).normalizer.normalize (.map targets)).result
        ((Session.shipped 18).normalizer.normalize (.map [(electronKey, .text "01.4")])).result) ∧
    ∃ targets, readTargetArguments ["electron=4.10"] = .ok targets ∧
      SameOutcome ((Session.shipped 18).normalizer.normalize (.map targets)).result
        ((Session.shipped 18).normalizer.normalize
          (.map [(electronKey, .text "4.10")])).result := by
  have hshipped : (Session.shipped 18).normalizer.electron = shippedTables.electron := rfl
  have hone : ∀ c ∈ ['1'], c.isDigit = true := List.all_eq_true.1 rfl
  have hfour : ∀ c ∈ ['4'], c.isDigit = true := List.all_eq_true.1 rfl
  have hzeroOne : ∀ c ∈ ['0', '1'], c.isDigit = true := List.all_eq_true.1 rfl
  have hten : ∀ c ∈ ['1', '0'], c.isDigit = true := List.all_eq_true.1 rfl
  refine ⟨?_, ?_, ?_⟩
  · obtain ⟨targets, htargets, hsame⟩ := normalize_electronArgument hshipped hone hfour
      (List.cons_ne_nil _ _) (List.cons_ne_nil _ _)
    exact ⟨targets, htargets, hsame.2 (.inr (.inl (by decide)))⟩
  · obtain ⟨targets, htargets, hsame⟩ := normalize_electronArgument hshipped hzeroOne hfour
      (List.cons_ne_nil _ _) (List.cons_ne_nil _ _)
    exact ⟨targets, htargets, hsame.2 (.inl ⟨'1', [], rfl⟩)⟩
  · obtain ⟨targets, htargets, hsame⟩ := normalize_electronArgument hshipped hfour hten
      (List.cons_ne_nil _ _) (List.cons_ne_nil _ _)
    have hwritten : (Binary64.ofDecimal false (digitsValue (['4'] ++ ['1', '0']))
        (-(['1', '0'] : List Char).length)).written = "4.1" := by
      decide +kernel
    have hread := readFloat?_of_digits hfour hten (List.cons_ne_nil _ _)
    generalize Binary64.ofDecimal false (digitsValue (['4'] ++ ['1', '0']))
      (-(['1', '0'] : List Char).length) = x at hread hwritten
    -- The number loses the zero, but the table has neither version.
    refine ⟨targets, htargets, hsame.2 (.inr (.inr fun other hother => ?_))⟩
    obtain rfl := Option.some.inj (hread.symm.trans hother)
    refine not_misread_of_pointed hfour hone (congrArg String.toList hwritten) ?_
    rw [hwritten]
    decide

/-- The tenth minor version is unknown to the library, but on the command line it is the number of
the first one, which the table has. -/
theorem shipped_electronArgument_differs : ∃ targets,
    readTargetArguments ["electron=1.10"] = .ok targets ∧
      ((Session.shipped 18).normalizer.normalize (.map targets)).result =
        .ok [("chrome", .float (.ofDecimal false 50 0))] ∧
      ((Session.shipped 18).normalizer.normalize (.map [(electronKey, .text "1.10")])).result =
        .error (.electronUnknown "1.10") ∧
      ¬SameOutcome ((Session.shipped 18).normalizer.normalize (.map targets)).result
        ((Session.shipped 18).normalizer.normalize
          (.map [(electronKey, .text "1.10")])).result := by
  have hone : ∀ c ∈ ['1'], c.isDigit = true := List.all_eq_true.1 rfl
  have hten : ∀ c ∈ ['1', '0'], c.isDigit = true := List.all_eq_true.1 rfl
  have hzero : ¬SuperfluousZero ['1'] := by
    rintro ⟨d, more, h⟩
    cases h
  have hwritten : (Binary64.ofDecimal false (digitsValue (['1'] ++ ['1', '0']))
      (-(['1', '0'] : List Char).length)).written = "1.1" := by
    decide +kernel
  have hread := readFloat?_of_digits hone hten (List.cons_ne_nil _ _)
  generalize Binary64.ofDecimal false (digitsValue (['1'] ++ ['1', '0']))
    (-(['1', '0'] : List Char).length) = x at hread hwritten
  have hnumber : readElectron (Session.shipped 18).normalizer.writing (.float x) =
      .ok (some "1.1") :=
    congrArg (fun text => Except.ok (some text)) hwritten
  have hknown : ((Session.shipped 18).normalizer.normalize
      (.map [(electronKey, .float x)])).result =
        .ok [("chrome", .float (.ofDecimal false 50 0))] := by
    rw [normalize_electron hnumber]
    rfl
  have hunknown : ((Session.shipped 18).normalizer.normalize
      (.map [(electronKey, .text "1.10")])).result = .error (.electronUnknown "1.10") := by
    rw [normalize_electron rfl]
    rfl
  have hargument := readTargetArguments_electron (targetValue_decimal hone hten
    (List.cons_ne_nil _ _) (List.cons_ne_nil _ _) hzero hread)
  refine ⟨_, hargument, hknown, hunknown, ?_⟩
  rw [hknown, hunknown]
  exact id

end Normalizer

end TransformPreset
