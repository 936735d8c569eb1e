import Mathlib.Tactic.ByContra
import TransformPreset.Console.Markup
import TransformPreset.Proofs.Outcome

/-!
# Markup without tags

A markup in which nothing is a tag is always shown, without a style (`renderMarkup_of_untagged`). A
text without an opening bracket is such a markup, and so is every text once it is escaped
(`not_holdsTag_escapeMarkup`): reading an escaped text goes through it in step with escaping it, and
meets each tag behind an odd number of backslashes. An escaped text may therefore stand behind a
label with tags of its own, as the message of an error does (`renderMarkup_error`).
-/

namespace TransformPreset

/-- Whether no part of a markup is a tag. -/
def Untagged (pieces : List MarkupPiece) : Prop :=
  ∀ piece ∈ pieces, ∃ text, piece = .plain text

/-- Whether a text that is read as markup has a tag in it. -/
def HoldsTag (text : String) : Prop :=
  ∃ place body, .tag place body ∈ markupPieces text.toList

theorem not_holdsTag_iff {text : String} :
    ¬HoldsTag text ↔ Untagged (markupPieces text.toList) := by
  constructor
  · intro h piece hpiece
    cases piece with
    | plain shown => exact ⟨shown, rfl⟩
    | tag place body => exact absurd ⟨place, body, hpiece⟩ h
  · rintro h ⟨place, body, hmem⟩
    obtain ⟨shown, hshown⟩ := h _ hmem
    cases hshown

/-! ## Showing -/

/-- Parts without a tag are shown; what is open stays open to their end. -/
theorem showPieces_of_untagged {pieces : List MarkupPiece} (h : Untagged pieces) (length : Nat)
    (opened : List OpenTag) :
    ∃ shown, showPieces length opened pieces =
      .ok (shown, opened.map (·.span (length + shown.length))) := by
  induction pieces generalizing length with
  | nil => exact ⟨[], rfl⟩
  | cons piece rest ih =>
    obtain ⟨⟨text, rfl⟩, hrest⟩ := List.forall_mem_cons.1 h
    obtain ⟨more, hmore⟩ := ih hrest (length + (dropControls (replaceCodes text)).length)
    refine ⟨dropControls (replaceCodes text) ++ more, ?_⟩
    rw [showPieces, hmore, List.length_append, ← Nat.add_assoc]
    rfl

/-- A markup without a tag is shown without a style. -/
theorem renderMarkup_of_untagged {markup : String} (h : ¬HoldsTag markup) :
    ∃ shown, renderMarkup markup = .ok ⟨shown, []⟩ := by
  obtain ⟨shown, hshown⟩ := showPieces_of_untagged (not_holdsTag_iff.1 h) 0 []
  refine ⟨shown, ?_⟩
  rw [renderMarkup, hshown]
  simp [Bind.bind, Except.bind, Pure.pure, Except.pure]

/-! ## Reading -/

theorem untagged_plainPieces (text : List Char) : Untagged (plainPieces text) := by
  unfold plainPieces
  split
  · exact fun _ h => absurd h List.not_mem_nil
  · exact List.forall_mem_singleton.2 ⟨text, rfl⟩

theorem tagAt?_of_ne {c : Char} (h : c ≠ '[') (rest : List Char) : tagAt? c rest = none := by
  rw [tagAt?, if_neg (by simpa using h)]

/-- Reading a text without an opening bracket finds no tag. -/
theorem untagged_of_noBracket {text : List Char} (h : '[' ∉ text)
    (place skipped before : Nat) (pending : List Char) :
    Untagged (markupPiecesFrom place skipped before pending text) := by
  induction text generalizing place skipped before pending with
  | nil => exact untagged_plainPieces _
  | cons c rest ih =>
    rw [List.mem_cons, not_or] at h
    unfold markupPiecesFrom
    rw [tagAt?_of_ne (Ne.symm h.1)]
    split
    · exact ih h.2 _ _ _ _
    · split <;> exact ih h.2 _ _ _ _

/-- A text without an opening bracket holds no tag. -/
theorem not_holdsTag_of_noBracket {text : String} (h : '[' ∉ text.toList) : ¬HoldsTag text :=
  not_holdsTag_iff.2 (untagged_of_noBracket h 0 0 0 [])

/-! ## Tags and brackets -/

/-- Whether a character is a square bracket. -/
def isBracket (c : Char) : Bool :=
  c == '[' || c == ']'

theorem tagBody?_cons (first : Char) (rest : List Char) :
    tagBody? (first :: rest) =
      if isTagStart first &&
          (rest.drop (rest.takeWhile fun c => !isBracket c).length).head? == some ']' then
        some (first :: rest.takeWhile fun c => !isBracket c)
      else none := by
  have hbracket : (fun c : Char => c != '[' && c != ']') = fun c => !isBracket c := by
    funext c
    rw [isBracket, Bool.not_or]
    rfl
  rw [tagBody?, hbracket]

/-- Behind the characters up to a bracket stands the first bracket. -/
theorem head?_drop_takeWhile (text : List Char) :
    (text.drop (text.takeWhile fun c => !isBracket c).length).head? = text.find? isBracket := by
  induction text with
  | nil => rfl
  | cons c rest ih =>
    by_cases hc : isBracket c = true
    · rw [List.takeWhile_cons_of_neg (by simpa using hc), List.find?_cons_of_pos hc]
      rfl
    · rw [List.takeWhile_cons_of_pos (by simpa using hc), List.find?_cons_of_neg hc, ← ih]
      rfl

/-- A tag opens before a character exactly if a tag may start with it and the next bracket
closes. -/
theorem isSome_tagBody? (first : Char) (rest : List Char) :
    (tagBody? (first :: rest)).isSome =
      (isTagStart first && rest.find? isBracket == some ']') := by
  rw [tagBody?_cons, head?_drop_takeWhile]
  cases isTagStart first && rest.find? isBracket == some ']' <;> rfl

/-- The body of a tag stands before a closing bracket, and is read as the tag whatever stands behind
that. -/
theorem tagBody?_append {text body : List Char} (h : tagBody? text = some body) :
    (∃ after, text = body ++ ']' :: after) ∧
      ∀ other, tagBody? (body ++ ']' :: other) = some body := by
  cases text with
  | nil => cases h
  | cons first rest =>
    obtain ⟨more, hmore⟩ : ∃ more, (rest.takeWhile fun c => !isBracket c) = more := ⟨_, rfl⟩
    obtain ⟨behind, hbehind⟩ := List.takeWhile_prefix (fun c => !isBracket c) (l := rest)
    have hplain : ∀ c ∈ more, (!isBracket c) = true := by
      rw [← hmore]
      exact List.all_eq_true.1 List.all_takeWhile
    rw [tagBody?_cons, hmore] at h
    rw [hmore] at hbehind
    split at h
    case isFalse => cases h
    rename_i htag
    obtain ⟨hstart, hclosed⟩ := Bool.and_eq_true_iff.1 htag
    obtain rfl := Option.some.inj h
    constructor
    · rw [← hbehind, List.drop_left, beq_iff_eq, List.head?_eq_some_iff] at hclosed
      obtain ⟨after, rfl⟩ := hclosed
      exact ⟨after, by rw [← hbehind, List.cons_append]⟩
    · intro other
      have htake : (more ++ ']' :: other).takeWhile (fun c => !isBracket c) = more := by
        rw [List.takeWhile_append_of_pos hplain, List.takeWhile_cons_of_neg (by decide),
          List.append_nil]
      rw [List.cons_append, tagBody?_cons, htake, List.drop_left, hstart]
      rfl

/-! ## Escaping -/

/-- What may stand behind an escaped text: nothing, or one more backslash. -/
def IsTail (tail : List Char) : Prop :=
  tail = [] ∨ tail = ['\\']

theorem find?_backslashes (count : Nat) (rest : List Char) :
    (backslashes count ++ rest).find? isBracket = rest.find? isBracket := by
  induction count with
  | zero => rfl
  | succ count ih => exact ih

/-- Escaping keeps the first bracket. -/
theorem find?_escapeTags {tail : List Char} (htail : IsTail tail) (text : List Char)
    (before : Nat) :
    (escapeTags 0 before text ++ tail).find? isBracket = text.find? isBracket := by
  induction text generalizing before with
  | nil =>
    rw [escapeTags, find?_backslashes]
    rcases htail with rfl | rfl <;> rfl
  | cons c rest ih =>
    unfold escapeTags
    rw [if_neg (Nat.lt_irrefl 0)]
    split
    · rename_i hc
      rw [beq_iff_eq] at hc
      subst hc
      exact ih _
    · split
      · rw [List.append_assoc, find?_backslashes, List.cons_append]
        by_cases hbracket : isBracket c = true
        · rw [List.find?_cons_of_pos hbracket, List.find?_cons_of_pos hbracket]
        · rw [List.find?_cons_of_neg hbracket, List.find?_cons_of_neg hbracket, ih]
      · rename_i body htag
        have hc : c = '[' := by
          by_contra hne
          rw [tagAt?_of_ne hne] at htag
          cases htag
        subst hc
        rw [List.append_assoc, find?_backslashes, List.cons_append]
        rfl

/-- Escaping a text behind a backslash leaves a backslash first. -/
theorem head?_escapeTags (text : List Char) (before : Nat) :
    (escapeTags 0 (before + 1) text).head? = some '\\' := by
  induction text generalizing before with
  | nil => rfl
  | cons c rest ih =>
    unfold escapeTags
    rw [if_neg (Nat.lt_irrefl 0)]
    split
    · exact ih _
    · split <;> rfl

theorem tagBody?_backslash (rest : List Char) : tagBody? ('\\' :: rest) = none := by
  rw [tagBody?_cons]
  rfl

/-- Escaping makes no tag of a bracket that opens none. -/
theorem tagBody?_escapeTags {tail : List Char} (htail : IsTail tail) {text : List Char}
    (h : tagBody? text = none) : tagBody? (escapeTags 0 0 text ++ tail) = none := by
  cases text with
  | nil => rcases htail with rfl | rfl <;> rfl
  | cons c rest =>
    unfold escapeTags
    rw [if_neg (Nat.lt_irrefl 0)]
    split
    · obtain ⟨more, hmore⟩ := List.head?_eq_some_iff.1 (head?_escapeTags rest 0)
      rw [hmore]
      exact tagBody?_backslash _
    · split
      · -- The first character and the first bracket behind it are the same.
        have hsome := isSome_tagBody? c (escapeTags 0 0 rest ++ tail)
        rw [find?_escapeTags htail, ← isSome_tagBody?, h] at hsome
        exact Option.not_isSome_iff_eq_none.1 (Bool.eq_false_iff.1 hsome)
      · exact tagBody?_backslash _

/-- The characters of a tag are kept when it is escaped. -/
theorem escapeTags_append (skipped rest : List Char) :
    escapeTags skipped.length 0 (skipped ++ rest) = skipped ++ escapeTags 0 0 rest := by
  induction skipped with
  | nil => rfl
  | cons c more ih =>
    rw [List.cons_append, List.length_cons, escapeTags, if_pos (Nat.succ_pos _),
      Nat.add_sub_cancel, ih, List.cons_append]

/-- Reading counts backslashes. -/
theorem markupPiecesFrom_backslashes (count place before : Nat) (pending rest : List Char) :
    markupPiecesFrom place 0 before pending (backslashes count ++ rest) =
      markupPiecesFrom (place + count) 0 (before + count) pending rest := by
  induction count generalizing place before with
  | zero => rfl
  | succ count ih =>
    show markupPiecesFrom (place + 1) 0 (before + 1) pending (backslashes count ++ rest) = _
    rw [ih, Nat.add_right_comm, Nat.add_right_comm before]
    rfl

/-- Where escaping stands behind some backslashes that it has not written yet, or within a tag,
reading what it writes from there on finds no tag. -/
theorem untagged_escapeTags {tail : List Char} (htail : IsTail tail) (text : List Char)
    (place skipped before : Nat) (pending : List Char) (hwithin : 0 < skipped → before = 0) :
    Untagged (markupPiecesFrom place skipped 0 pending
      (escapeTags skipped before text ++ tail)) := by
  induction text generalizing place skipped before pending with
  | nil =>
    refine untagged_of_noBracket ?_ _ _ _ _
    rw [escapeTags, List.mem_append, not_or]
    refine ⟨fun h => absurd (List.eq_of_mem_replicate h) (by decide), ?_⟩
    rcases htail with rfl | rfl <;> decide
  | cons c rest ih =>
    by_cases hskipped : 0 < skipped
    · obtain rfl := hwithin hskipped
      rw [escapeTags, if_pos hskipped, List.cons_append, markupPiecesFrom, if_pos hskipped]
      exact ih _ _ _ _ fun _ => rfl
    · obtain rfl : skipped = 0 := by omega
      unfold escapeTags
      rw [if_neg hskipped]
      split
      · exact ih _ _ _ _ fun h => absurd h hskipped
      · rename_i hc
        split
        · rename_i hnone
          have hstill : tagAt? c (escapeTags 0 0 rest ++ tail) = none := by
            unfold tagAt? at hnone ⊢
            split
            · rename_i hopen
              rw [if_pos hopen] at hnone
              exact tagBody?_escapeTags htail hnone
            · rfl
          rw [List.append_assoc, markupPiecesFrom_backslashes, List.cons_append, markupPiecesFrom,
            if_neg hskipped, if_neg hc, hstill]
          exact ih _ _ _ _ fun h => absurd h hskipped
        · -- The tag stands behind an odd number of backslashes now, and is read as it was.
          rename_i body htag
          have hopen : (c == '[') = true := by
            by_contra hne
            rw [tagAt?, if_neg hne] at htag
            cases htag
          rw [tagAt?, if_pos hopen] at htag
          obtain ⟨⟨after, rfl⟩, hread⟩ := tagBody?_append htag
          have hagain : tagAt? c (escapeTags (body.length + 1) 0 (body ++ ']' :: after) ++ tail) =
              some body := by
            have hkept : escapeTags (body.length + 1) 0 (body ++ ']' :: after) =
                body ++ ']' :: escapeTags 0 0 after := by
              simpa using escapeTags_append (body ++ [']']) after
            rw [tagAt?, if_pos hopen, hkept, List.append_assoc, List.cons_append]
            exact hread _
          rw [List.append_assoc, markupPiecesFrom_backslashes, List.cons_append, markupPiecesFrom,
            if_neg hskipped, if_neg hc, hagain]
          have hodd : ¬(0 + (2 * before + 1)) % 2 = 0 := by omega
          dsimp only
          rw [if_neg hodd]
          refine List.forall_mem_append.2 ⟨List.forall_mem_append.2
            ⟨untagged_plainPieces _, untagged_plainPieces _⟩, List.forall_mem_cons.2
            ⟨⟨_, rfl⟩, ih _ _ _ _ fun _ => rfl⟩⟩

/-- An escaped text is read without a tag, behind whatever text there is before. -/
theorem untagged_escapeMarkup (text : String) (place : Nat) (pending : List Char) :
    Untagged (markupPiecesFrom place 0 0 pending (escapeMarkup text).toList) := by
  unfold escapeMarkup
  dsimp only
  rw [String.toList_ofList]
  split
  · exact untagged_escapeTags (.inr rfl) _ _ _ _ _ fun _ => rfl
  · rw [← List.append_nil (escapeTags 0 0 text.toList)]
    exact untagged_escapeTags (.inl rfl) _ _ _ _ _ fun _ => rfl

/-- An escaped text holds no tag. -/
theorem not_holdsTag_escapeMarkup (text : String) : ¬HoldsTag (escapeMarkup text) :=
  not_holdsTag_iff.2 (untagged_escapeMarkup text 0 [])

/-! ## Errors -/

/-- Reading leaves out what belongs to a tag. -/
theorem markupPiecesFrom_within (skipped rest : List Char) (place : Nat) :
    markupPiecesFrom place skipped.length 0 [] (skipped ++ rest) =
      markupPiecesFrom (place + skipped.length) 0 0 [] rest := by
  induction skipped generalizing place with
  | nil => rfl
  | cons c more ih =>
    rw [List.cons_append, List.length_cons, markupPiecesFrom, if_pos (Nat.succ_pos _),
      Nat.add_sub_cancel, ih, Nat.add_right_comm, ← Nat.add_assoc]

/-- Reading gathers what belongs to no tag. -/
theorem markupPiecesFrom_plain {text : List Char} (h : ∀ c ∈ text, c ≠ '[' ∧ c ≠ '\\')
    (place : Nat) (pending rest : List Char) :
    markupPiecesFrom place 0 0 pending (text ++ rest) =
      markupPiecesFrom (place + text.length) 0 0 (text.reverse ++ pending) rest := by
  induction text generalizing place pending with
  | nil => rfl
  | cons c more ih =>
    obtain ⟨⟨hopen, hescape⟩, hmore⟩ := List.forall_mem_cons.1 h
    rw [List.cons_append, markupPiecesFrom, if_neg (Nat.lt_irrefl 0),
      if_neg (by simpa using hescape), tagAt?_of_ne hopen]
    dsimp only
    rw [ih hmore, List.length_cons, Nat.add_right_comm, List.reverse_cons, List.append_assoc]
    rfl

/-- Reading finds a tag. -/
theorem markupPiecesFrom_tag {body : List Char} (h : ∀ other, tagBody? (body ++ ']' :: other) =
    some body) (place : Nat) (pending rest : List Char) :
    markupPiecesFrom place 0 0 pending ('[' :: (body ++ ']' :: rest)) =
      plainPieces (unescapeBrackets pending.reverse) ++
        .tag place body :: markupPiecesFrom (place + body.length + 2) 0 0 [] rest := by
  have htag : tagAt? '[' (body ++ ']' :: rest) = some body := h rest
  have hwithin : markupPiecesFrom (place + 1) (body.length + 1) 0 [] (body ++ ']' :: rest) =
      markupPiecesFrom (place + body.length + 2) 0 0 [] rest := by
    have h := markupPiecesFrom_within (body ++ [']']) rest (place + 1)
    rw [List.append_assoc, List.length_append, Nat.add_right_comm] at h
    exact h
  rw [markupPiecesFrom, if_neg (Nat.lt_irrefl 0), if_neg (by decide), htag]
  dsimp only
  rw [hwithin, if_pos rfl]
  show plainPieces _ ++ [] ++ _ = _
  rw [List.append_nil]

variable {length place : Nat} {opened stillOpen : List OpenTag} {tag : OpenTag}
  {text body : List Char} {rest : List MarkupPiece} {shown : List Char} {spans : List Span}

/-- A part that is a text is shown before those behind it. -/
theorem showPieces_plain
    (h : showPieces (length + (dropControls (replaceCodes text)).length) opened rest =
      .ok (shown, spans)) :
    showPieces length opened (.plain text :: rest) =
      .ok (dropControls (replaceCodes text) ++ shown, spans) := by
  rw [showPieces, h]
  rfl

/-- A tag that opens stays open behind it. -/
theorem showPieces_open (hbody : (body.head? == some '/') = false)
    (htag : openTag length body = .ok tag) :
    showPieces length opened (.tag place body :: rest) =
      showPieces length (tag :: opened) rest := by
  rw [showPieces, hbody, htag]
  rfl

/-- A tag that closes a style leaves the span of that. -/
theorem showPieces_close (hbody : (body.head? == some '/') = true)
    (htag : closeTag place body opened = .ok (tag, stillOpen)) (hstyle : tag.isAction = false)
    (h : showPieces length stillOpen rest = .ok (shown, spans)) :
    showPieces length opened (.tag place body :: rest) =
      .ok (shown, tag.span length :: spans) := by
  rw [showPieces, if_pos hbody, htag]
  show (showPieces length stillOpen rest >>= fun rested => _) = _
  rw [h]
  show Except.ok (shown, if tag.isAction then spans else tag.span length :: spans) = _
  rw [hstyle]
  rfl

/-- A markup whose parts are shown is shown, with their spans in another order. -/
theorem renderMarkup_of_showPieces {markup : String}
    (h : showPieces 0 [] (markupPieces markup.toList) = .ok (shown, spans)) :
    ∃ ordered, renderMarkup markup = .ok ⟨shown, ordered⟩ := by
  refine ⟨spans.reverse.mergeSort fun a b => decide (a.first ≤ b.first), ?_⟩
  rw [renderMarkup, h]
  rfl

/-- The label of an error and an escaped message are shown, and the label comes first. -/
theorem renderMarkup_error (message : String) :
    ∃ shown : StyledText, ∃ rest, renderMarkup ("[bold red]error[/bold red]: " ++
      escapeMarkup message) = .ok shown ∧ shown.text = "error".toList ++ rest := by
  have hpieces : markupPieces ("[bold red]error[/bold red]: " ++ escapeMarkup message).toList =
      .tag 0 "bold red".toList :: .plain "error".toList :: .tag 15 "/bold red".toList ::
        markupPiecesFrom 28 0 0 [' ', ':'] (escapeMarkup message).toList := by
    have htext : ("[bold red]error[/bold red]: " ++ escapeMarkup message).toList =
        '[' :: ("bold red".toList ++ ']' :: ("error".toList ++ '[' :: ("/bold red".toList ++ ']' ::
          (": ".toList ++ (escapeMarkup message).toList)))) := by
      rw [String.toList_append]
      rfl
    have hlabel : ∀ c ∈ "error".toList, c ≠ '[' ∧ c ≠ '\\' := by simp
    have hcolon : ∀ c ∈ ": ".toList, c ≠ '[' ∧ c ≠ '\\' := by simp
    rw [markupPieces, htext, markupPiecesFrom_tag fun _ => rfl, markupPiecesFrom_plain hlabel,
      markupPiecesFrom_tag fun _ => rfl, markupPiecesFrom_plain hcolon]
    rfl
  have hopen : openTag 0 "bold red".toList = .ok ⟨0, "bold red".toList, []⟩ :=
    ok_of_toOption (by decide +kernel)
  have hclose : closeTag 15 "/bold red".toList [⟨0, "bold red".toList, []⟩] =
      .ok (⟨0, "bold red".toList, []⟩, []) :=
    ok_of_toOption (by decide +kernel)
  have hword : dropControls (replaceCodes "error".toList) = "error".toList := by
    decide +kernel
  obtain ⟨more, hmore⟩ := showPieces_of_untagged (untagged_escapeMarkup message 28 [' ', ':'])
    (0 + (dropControls (replaceCodes "error".toList)).length) []
  -- The tag opens before the first word and closes behind it.
  have hbehind := showPieces_plain (showPieces_close rfl hclose (by decide +kernel) hmore)
  rw [hword] at hbehind
  obtain ⟨ordered, hrendered⟩ :=
    renderMarkup_of_showPieces (hpieces ▸ (showPieces_open rfl hopen).trans hbehind)
  exact ⟨_, more, hrendered, rfl⟩

end TransformPreset
