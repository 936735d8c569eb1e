import Mathlib.Data.List.GetD
import TransformPreset.Command.Run
import TransformPreset.Console.Table
import TransformPreset.Proofs.Console.Markup

/-!
# The laws of a terminal

A table is laid out before it is drawn. Laying it out renders its cells, and drawing it reads the
styles that are left in their lines. A line gets its styles from its cell, whatever is done to it on
the way (`wears_cellLines`), so a table fails only as one of its cells does
(`ScreenTable.ofMarkup_error`). With what is known of escaped texts, a terminal is a console on
which commands can rely (`terminal_lawful`).
-/

namespace TransformPreset

/-- Whether showing a text that is read as markup fails: it cannot be rendered, or one of its styles
cannot be read. -/
def ShowingFails (text : String) (failure : Failure) : Prop :=
  renderMarkup text = .error failure ∨
    ∃ styled span, renderMarkup text = .ok styled ∧ span ∈ styled.spans ∧
      styleKey span.style = .error failure

/-- A text without a tag can be shown. -/
theorem not_showingFails_of_untagged {text : String} (h : ¬HoldsTag text) (failure : Failure) :
    ¬ShowingFails text failure := by
  obtain ⟨shown, hshown⟩ := renderMarkup_of_untagged h
  rintro (hrender | ⟨styled, span, hrender, hspan, -⟩)
  · cases hshown.symm.trans hrender
  · obtain rfl := Except.ok.inj (hshown.symm.trans hrender)
    exact absurd hspan List.not_mem_nil

namespace StyledText

variable {styled : StyledText} {styles : List (List Char)}

/-! ## Styles of lines -/

/-- Whether the spans of a styled text have no other styles than given ones. -/
def Wears (styled : StyledText) (styles : List (List Char)) : Prop :=
  ∀ span ∈ styled.spans, span.style ∈ styles

/-- A styled text whose spans are made of those of another one, style by style, wears its styles. -/
theorem Wears.filterMap (h : styled.Wears styles) {change : Span → Option Span}
    (hchange : ∀ span kept, change span = some kept → kept.style = span.style)
    (text : List Char) : Wears ⟨text, styled.spans.filterMap change⟩ styles := by
  intro kept hkept
  obtain ⟨span, hspan, hchanged⟩ := List.mem_filterMap.1 hkept
  rw [hchange span kept hchanged]
  exact h span hspan

/-- So does a part of it. -/
theorem Wears.part (h : styled.Wears styles) (first last : Nat) :
    (styled.part first last).Wears styles := by
  refine h.filterMap (fun span kept hkept => ?_) _
  unfold Span.between? at hkept
  dsimp only at hkept
  split at hkept
  · rw [← Option.some.inj hkept]
  · cases hkept

/-- So does the text with another, shorter text. -/
theorem Wears.withText (h : styled.Wears styles) (text : List Char) :
    (styled.withText text).Wears styles := by
  unfold StyledText.withText
  split
  · refine h.filterMap (fun span kept hkept => ?_) _
    unfold Span.upTo? at hkept
    split at hkept
    · rw [← Option.some.inj hkept]
    · cases hkept
  · exact h

/-- So do its parts between places. -/
theorem Wears.partsFrom (h : styled.Wears styles) (first : Nat) (places : List Nat) :
    ∀ part ∈ styled.partsFrom first places, part.Wears styles := by
  induction places generalizing first with
  | nil => exact List.forall_mem_singleton.2 (h.part _ _)
  | cons place rest ih => exact List.forall_mem_cons.2 ⟨h.part _ _, ih place⟩

/-- So do its parts between cuts. -/
theorem Wears.cutAt (h : styled.Wears styles) (places : List Nat) :
    ∀ part ∈ styled.cutAt places, part.Wears styles := by
  unfold StyledText.cutAt
  split
  · exact List.forall_mem_singleton.2 h
  · exact h.partsFrom 0 places

/-- So do its lines. -/
theorem Wears.lines (h : styled.Wears styles) : ∀ line ∈ styled.lines, line.Wears styles := by
  have hfrom : ∀ (ends : List Nat) (first : Nat), ∀ line ∈ styled.linesFrom first ends,
      line.Wears styles := by
    intro ends
    induction ends with
    | nil => exact fun first => List.forall_mem_singleton.2 (h.part _ _)
    | cons place rest ih =>
      exact fun first => List.forall_mem_cons.2 ⟨h.part _ _, ih (place + 1)⟩
  unfold StyledText.lines
  split
  · exact hfrom _ 0
  · exact List.forall_mem_singleton.2 h

/-- Filling up tabs keeps styles. -/
theorem wears_fillTabs {parts : List StyledText} (h : ∀ part ∈ parts, part.Wears styles)
    (column : Nat) : (fillTabs column parts).Wears styles := by
  induction parts generalizing column with
  | nil => exact fun _ hspan => absurd hspan List.not_mem_nil
  | cons first rest ih =>
    obtain ⟨hfirst, hrest⟩ := List.forall_mem_cons.1 h
    refine List.forall_mem_append.2 ⟨fun span hspan => ?_, fun span hspan => ?_⟩
    · obtain ⟨old, hold, rfl⟩ := List.mem_map.1 hspan
      have hstyle : ∀ length count, (old.stretch length count).style = old.style := by
        intro length count
        unfold Span.stretch
        split <;> rfl
      rw [hstyle]
      exact hfirst old hold
    · obtain ⟨old, hold, rfl⟩ := List.mem_map.1 hspan
      exact ih hrest _ old hold

/-- So does a line with its tabs as spaces. -/
theorem Wears.expandTabs (h : styled.Wears styles) : styled.expandTabs.Wears styles := by
  unfold StyledText.expandTabs
  split
  · exact wears_fillTabs (h.partsFrom _ _) _
  · exact h

/-- So does a line that is fitted into a room. -/
theorem Wears.fit (h : styled.Wears styles) (room : Nat) (atRight : Bool) :
    (styled.fit room atRight).Wears styles := by
  unfold StyledText.fit
  dsimp only
  split
  · exact ((h.withText _).withText _).withText _
  · exact (h.withText _).withText _

/-- The lines of a cell have their styles from the cell. -/
theorem wears_cellLines (room : Nat) (atRight : Bool) (cell : StyledText) :
    ∀ line ∈ cellLines room atRight cell, line.Wears (cell.spans.map Span.style) := by
  have hcell : cell.Wears (cell.spans.map Span.style) := fun _ hspan => List.mem_map_of_mem hspan
  intro line hline
  obtain ⟨whole, hwhole, hline⟩ := List.mem_flatMap.1 hline
  obtain ⟨part, hpart, rfl⟩ := List.mem_map.1 hline
  exact ((hcell.lines whole hwhole).expandTabs.cutAt _ part hpart).fit room atRight

/-- Checking a styled text fails as reading one of its styles does. -/
theorem check_error {failure : Failure} (h : styled.check = .error failure) :
    ∃ span ∈ styled.spans, styleKey span.style = .error failure := by
  have hspans : ∀ spans : List Span, checkSpans spans = .error failure →
      ∃ span ∈ spans, styleKey span.style = .error failure := by
    intro spans hspans
    induction spans with
    | nil => cases hspans
    | cons span rest ih =>
      cases hkey : styleKey span.style with
      | error other =>
        rw [checkSpans, hkey] at hspans
        have hsame : other = failure := Except.error.inj hspans
        exact ⟨span, List.mem_cons_self, hsame ▸ hkey⟩
      | ok key =>
        rw [checkSpans, hkey] at hspans
        obtain ⟨bad, hbad, hfails⟩ := ih hspans
        exact ⟨bad, List.mem_cons_of_mem _ hbad, hfails⟩
  exact hspans _ h

end StyledText

/-! ## Failing cells -/

/-- Checking lines fails as checking one of them does. -/
theorem checkLines_error {lines : List StyledText} {failure : Failure}
    (h : checkLines lines = .error failure) : ∃ line ∈ lines, line.check = .error failure := by
  induction lines with
  | nil => cases h
  | cons line rest ih =>
    rcases except_bind_error_iff.1 h with hline | ⟨-, -, hrest⟩
    · exact ⟨line, List.mem_cons_self, hline⟩
    · obtain ⟨bad, hbad, hfails⟩ := ih hrest
      exact ⟨bad, List.mem_cons_of_mem _ hbad, hfails⟩

namespace ScreenColumn

variable {rows : List (List String)} {place : Nat} {failure : Failure}

/-- A cell of a row that has none there is blank and is shown. -/
theorem mem_row_of_showingFails {row : List String} (h : ShowingFails (row.getD place "") failure) :
    ∃ cell ∈ row, ShowingFails cell failure := by
  rcases Nat.lt_or_ge place row.length with hlt | hge
  · rw [List.getD_eq_getElem _ _ hlt] at h
    exact ⟨_, List.getElem_mem hlt, h⟩
  · rw [List.getD_eq_default _ _ hge] at h
    exact absurd h (not_showingFails_of_untagged (not_holdsTag_of_noBracket (by decide)) _)

/-- Rendering the cells of a column fails as rendering one of them does. -/
theorem texts_error (h : texts place rows = .error failure) :
    ∃ row ∈ rows, renderMarkup (row.getD place "") = .error failure := by
  induction rows with
  | nil => cases h
  | cons row rest ih =>
    rcases except_bind_error_iff.1 h with hrow | ⟨text, -, h⟩
    · exact ⟨row, List.mem_cons_self, hrow⟩
    · rcases except_bind_error_iff.1 h with hrest | ⟨more, -, h⟩
      · obtain ⟨bad, hbad, hfails⟩ := ih hrest
        exact ⟨bad, List.mem_cons_of_mem _ hbad, hfails⟩
      · cases h

/-- What is rendered is one of the cells. -/
theorem mem_texts {cells : List StyledText} (h : texts place rows = .ok cells) :
    ∀ cell ∈ cells, ∃ row ∈ rows, renderMarkup (row.getD place "") = .ok cell := by
  induction rows generalizing cells with
  | nil =>
    rw [← Except.ok.inj h]
    exact fun _ hcell => absurd hcell List.not_mem_nil
  | cons row rest ih =>
    obtain ⟨text, htext, h⟩ := except_bind_ok_iff.1 h
    obtain ⟨more, hmore, h⟩ := except_bind_ok_iff.1 h
    rw [← Except.ok.inj h]
    refine List.forall_mem_cons.2 ⟨⟨row, List.mem_cons_self, htext⟩, fun cell hcell => ?_⟩
    obtain ⟨found, hfound, hrender⟩ := ih hmore cell hcell
    exact ⟨found, List.mem_cons_of_mem _ hfound, hrender⟩

/-- Laying columns out fails as showing one of the cells does. -/
theorem laid_error {columns : List ScreenColumn} (h : laid rows place columns = .error failure) :
    ∃ row ∈ rows, ∃ cell ∈ row, ShowingFails cell failure := by
  induction columns generalizing place with
  | nil => cases h
  | cons column rest ih =>
    rcases except_bind_error_iff.1 h with htexts | ⟨cells, -, h⟩
    · obtain ⟨row, hrow, hrender⟩ := texts_error htexts
      exact ⟨row, hrow, mem_row_of_showingFails (.inl hrender)⟩
    · rcases except_bind_error_iff.1 h with hrest | ⟨others, -, h⟩
      · exact ih hrest
      · cases h

/-- Each line that is laid out is one of a cell that was rendered. -/
theorem mem_laid {columns : List ScreenColumn}
    {found : List ((ScreenColumn × Nat) × List (List StyledText))}
    (h : laid rows place columns = .ok found) :
    ∀ column ∈ found, ∀ lines ∈ column.2, ∃ row ∈ rows, ∃ place cell room atRight,
      renderMarkup (row.getD place "") = .ok cell ∧ lines = cellLines room atRight cell := by
  induction columns generalizing place found with
  | nil =>
    rw [← Except.ok.inj h]
    exact fun _ hcolumn => absurd hcolumn List.not_mem_nil
  | cons column rest ih =>
    obtain ⟨cells, hcells, h⟩ := except_bind_ok_iff.1 h
    obtain ⟨others, hothers, h⟩ := except_bind_ok_iff.1 h
    rw [← Except.ok.inj h]
    refine List.forall_mem_cons.2 ⟨fun lines hlines => ?_, ih hothers⟩
    obtain ⟨cell, hcell, rfl⟩ := List.mem_map.1 hlines
    obtain ⟨row, hrow, hrender⟩ := mem_texts hcells cell hcell
    exact ⟨row, hrow, place, cell, _, _, hrender, rfl⟩

end ScreenColumn

/-- A table fails only as showing one of its cells does. -/
theorem ScreenTable.ofMarkup_error {table : TableMarkup} {failure : Failure}
    (h : ScreenTable.ofMarkup table = .error failure) :
    ∃ row ∈ table.rows, ∃ cell ∈ row, ShowingFails cell failure := by
  rcases except_bind_error_iff.1 h with hlaid | ⟨found, hfound, h⟩
  · exact ScreenColumn.laid_error hlaid
  rcases except_bind_error_iff.1 h with hcheck | ⟨-, -, h⟩
  · -- The line that fails is one of a cell, and so is the style of it that cannot be read.
    obtain ⟨line, hline, hfails⟩ := checkLines_error hcheck
    obtain ⟨span, hspan, hstyle⟩ := StyledText.check_error hfails
    obtain ⟨cells, hcells, hline⟩ := List.mem_flatMap.1 hline
    obtain ⟨number, -, rfl⟩ := List.mem_map.1 hcells
    obtain ⟨lines, hlines, hline⟩ := List.mem_flatten.1 hline
    obtain ⟨⟨column, drawn⟩, hcolumn, rfl⟩ := List.mem_map.1 hlines
    dsimp only at hline
    rcases Nat.lt_or_ge number drawn.length with hlt | hge
    · rw [List.getD_eq_getElem _ _ hlt] at hline
      obtain ⟨row, hrow, place, cell, room, atRight, hrender, hlines⟩ :=
        ScreenColumn.mem_laid hfound _ hcolumn _ (List.getElem_mem hlt)
      rw [hlines] at hline
      obtain ⟨worn, hworn, heq⟩ :=
        List.mem_map.1 (StyledText.wears_cellLines room atRight cell line hline span hspan)
      exact ⟨row, hrow, ScreenColumn.mem_row_of_showingFails
        (.inr ⟨cell, worn, hrender, hworn, heq ▸ hstyle⟩)⟩
    · rw [List.getD_eq_default _ _ hge] at hline
      exact absurd hline List.not_mem_nil
  · cases h

/-! ## The terminal -/

/-- The notice that there are no targets can be rendered. -/
theorem exists_renderMarkup_notice : ∃ shown, renderMarkup noTargetsNotice = .ok shown := by
  have hshown : (renderMarkup noTargetsNotice).toOption.isSome = true := by
    decide +kernel
  obtain ⟨shown, hshown⟩ := Option.isSome_iff_exists.1 hshown
  exact ⟨shown, ok_of_toOption hshown⟩

/-- A terminal shows a markup that can be rendered. -/
theorem terminal_printMarkup {markup : String} {shown : StyledText}
    (h : renderMarkup markup = .ok shown) :
    terminal.printMarkup markup = .ok (textItems (String.ofList shown.text)) :=
  congrArg (Except.map fun shown : StyledText => textItems (String.ofList shown.text)) h

/-- A terminal does what commands rely on. -/
theorem terminal_lawful : terminal.Lawful where
  error text := by
    obtain ⟨shown, rest, hshown, htext⟩ := renderMarkup_error text
    refine ⟨String.ofList rest, (terminal_printMarkup hshown).trans ?_⟩
    rw [htext, String.ofList_append, String.ofList_toList]
    rfl
  notice := by
    obtain ⟨shown, hshown⟩ := exists_renderMarkup_notice
    exact ⟨_, terminal_printMarkup hshown⟩
  table table h := by
    cases hdrawn : ScreenTable.ofMarkup table with
    | ok drawn => exact ⟨_, except_map_ok_iff.2 ⟨drawn, hdrawn, rfl⟩⟩
    | error failure =>
      obtain ⟨row, hrow, cell, hcell, hfails⟩ := ScreenTable.ofMarkup_error hdrawn
      have huntagged : ¬HoldsTag cell := by
        rcases h row hrow cell hcell with hplain | ⟨text, rfl⟩
        · exact not_holdsTag_of_noBracket hplain
        · exact not_holdsTag_escapeMarkup text
      exact absurd hfails (not_showingFails_of_untagged huntagged failure)

end TransformPreset
