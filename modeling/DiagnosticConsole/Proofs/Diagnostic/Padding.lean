import DiagnosticConsole.Proofs.Diagnostic.Extent
import Mathlib.Order.Bounds.Basic

/-!
# The padding of a message

All lines of a message are padded alike. Two things bound the padding: no line
starts behind the first caret, and none is carried past the page. The padding that
each line allows is cut off at zero, and the least of what the lines allow is
taken; what comes out is the most that keeps within both bounds, or nothing if the
page has no room (`isGreatest_margin`).

That determines the padding, whatever it was computed from. So it grows with the
page, and the order of the lines does not matter.
-/

namespace DiagnosticConsole.Renderer

/-- A padding starts no line behind the first caret, and unless it is nothing it
carries no line past the page. -/
structure Fits (position : Position) (offset pageWidth : Int) (lines : List Text)
    (p : Int) : Prop where
  nonneg : 0 ≤ p
  caret : p ≤ offset + position.span.startColumn
  page : p = 0 ∨ ∀ line ∈ lines, p + offset + Terminal.width line ≤ pageWidth

/-- The padding of some lines. -/
def margin (position : Position) (offset pageWidth : Int) : List Text → Int
  | [] => 0
  | line :: rest => padding position offset pageWidth line rest

variable {position : Position} {offset pageWidth : Int} {lines : List Text}

theorem messageLines_eq (position : Position) (offset pageWidth : Int)
    (lines : List Text) :
    messageLines position offset pageWidth lines
      = lines.map (Text.spaces (margin position offset pageWidth lines) ++ ·) := by
  cases lines <;> rfl

theorem fits_margin (hoffset : 0 ≤ offset) :
    Fits position offset pageWidth lines
      (margin position offset pageWidth lines) := by
  cases lines with
  | nil => exact ⟨Int.le_refl 0, by rw [margin]; omega, .inl rfl⟩
  | cons line rest =>
      obtain ⟨hnonneg, hcaret⟩ :=
        padding_bounds position hoffset pageWidth line rest
      refine ⟨hnonneg, hcaret, or_iff_not_imp_left.mpr fun hzero t ht => ?_⟩
      -- the padding that a line allows has been cut off at zero only if it is zero
      have hle : padding position offset pageWidth line rest
          ≤ paddingOf position offset pageWidth t := padding_le ht
      rw [margin] at hzero ⊢
      rw [paddingOf] at hle
      omega

theorem Fits.le_margin (hlines : lines ≠ []) {p : Int}
    (h : Fits position offset pageWidth lines p) :
    p ≤ margin position offset pageWidth lines := by
  cases lines with
  | nil => exact absurd rfl hlines
  | cons line rest =>
      refine le_padding_iff.mpr fun t ht => ?_
      have hcaret := h.caret
      rw [paddingOf]
      rcases h.page with rfl | hpage
      · omega
      · have := hpage t ht
        omega

/-- The padding of a message is the most that fits. -/
theorem isGreatest_margin (hoffset : 0 ≤ offset) (hlines : lines ≠ []) :
    IsGreatest {p | Fits position offset pageWidth lines p}
      (margin position offset pageWidth lines) :=
  ⟨fits_margin hoffset, fun _ => Fits.le_margin hlines⟩

theorem Fits.wider {pageWidth' p : Int} (hwidth : pageWidth ≤ pageWidth')
    (h : Fits position offset pageWidth lines p) :
    Fits position offset pageWidth' lines p :=
  ⟨h.nonneg, h.caret, h.page.imp_right fun hpage line hline =>
    Int.le_trans (hpage line hline) hwidth⟩

theorem Fits.perm {lines' : List Text} {p : Int} (hperm : lines.Perm lines')
    (h : Fits position offset pageWidth lines p) :
    Fits position offset pageWidth lines' p :=
  ⟨h.nonneg, h.caret, h.page.imp_right fun hpage line hline =>
    hpage line (hperm.mem_iff.mpr hline)⟩

theorem margin_mono (hoffset : 0 ≤ offset) {pageWidth' : Int}
    (hwidth : pageWidth ≤ pageWidth') (lines : List Text) :
    margin position offset pageWidth lines
      ≤ margin position offset pageWidth' lines := by
  cases lines with
  | nil => exact Int.le_refl 0
  | cons line rest =>
      exact ((fits_margin hoffset).wider hwidth).le_margin (List.cons_ne_nil line rest)

theorem margin_perm (hoffset : 0 ≤ offset) {lines' : List Text}
    (hperm : lines.Perm lines') :
    margin position offset pageWidth lines
      = margin position offset pageWidth lines' := by
  by_cases hlines : lines = []
  · rw [hlines] at hperm ⊢
    rw [hperm.nil_eq]
  · have hlines' : lines' ≠ [] := fun h => hlines (h ▸ hperm).eq_nil
    exact Int.le_antisymm (((fits_margin hoffset).perm hperm).le_margin hlines')
      (((fits_margin hoffset).perm hperm.symm).le_margin hlines)

/-- Where the page has room for it, the message starts under the first caret. -/
theorem margin_eq_caret (hoffset : 0 ≤ offset) (hlines : lines ≠ [])
    (hroom : ∀ line ∈ lines,
      2 * offset + position.span.startColumn + Terminal.width line ≤ pageWidth) :
    margin position offset pageWidth lines
      = offset + position.span.startColumn := by
  refine Int.le_antisymm (fits_margin hoffset).caret (Fits.le_margin hlines ?_)
  refine ⟨by omega, Int.le_refl _, .inr fun line hline => ?_⟩
  have := hroom line hline
  omega

/-! ## Drawing -/

theorem checkAll_messageRuns (room : Nat) (position : Position) (offset pageWidth : Int)
    (lines : List Text) :
    Extent.checkAll room (messageRuns position offset pageWidth lines)
      = Extent.check room (margin position offset pageWidth lines) := by
  cases lines with
  | nil => rfl
  | cons line rest =>
      rw [messageRuns, Extent.checkAll, margin]
      cases Extent.check room (padding position offset pageWidth line rest) <;> rfl

/-- What comes of drawing a message: its lines with their padding, or what is wrong
with a padding that cannot be held. -/
theorem messageBody?_eq (r : Renderer) (position : Position) {offset : Int}
    (hoffset : 0 ≤ offset) (pageWidth : Option Int) (text : Text) :
    let lines := Text.lineContents text
    let p := margin position offset (pageWidth.getD r.pageWidth) lines
    r.messageBody? position text offset pageWidth
      = if Extent.pastIndexes ≤ p then .error .beyondIndex
        else if r.room < p then .error .beyondMemory
        else .ok (Text.unlines (lines.map (Text.spaces p ++ ·))) := by
  intro lines p
  have hdrawn : r.messageBody? position text offset pageWidth
      = (Extent.check r.room p).map
        fun _ => Text.unlines (lines.map (Text.spaces p ++ ·)) := by
    rw [messageBody?, Extent.drawn, checkAll_messageRuns, messageBody,
      messageLines_eq]
    cases Extent.check r.room (margin position offset (pageWidth.getD r.pageWidth)
      (Text.lineContents text)) <;> rfl
  have hp : Fits position offset (pageWidth.getD r.pageWidth) lines p :=
    fits_margin hoffset
  rw [hdrawn, Extent.check_of_nonneg hp.nonneg]
  split
  · rfl
  · split <;> rfl

/-- All lines of a message are padded alike, by the most that starts them no further
than under the first caret and carries none past the page, or by nothing. So the
message starts under the first caret where there is room for it, and stays on the
page where it is padded at all; the padding grows with the page and does not hang on
the order of the lines. A padding that cannot be held leaves no message to draw. -/
theorem messageBody_padded (r : Renderer) (position : Position) {offset : Int}
    (hoffset : 0 ≤ offset) (pageWidth : Option Int) {text : Text}
    (hlines : Text.lineContents text ≠ []) :
    let width := pageWidth.getD r.pageWidth
    let lines := Text.lineContents text
    let p := margin position offset width lines
    IsGreatest {p | Fits position offset width lines p} p
      ∧ r.messageBody? position text offset pageWidth
        = (if Extent.pastIndexes ≤ p then .error .beyondIndex
          else if r.room < p then .error .beyondMemory
          else .ok (Text.unlines (lines.map (Text.spaces p ++ ·))))
      ∧ ((∀ line ∈ lines,
          2 * offset + position.span.startColumn + Terminal.width line ≤ width) →
        p = offset + position.span.startColumn)
      ∧ (p ≠ 0 → ∀ line ∈ lines, p + Terminal.width line ≤ width)
      ∧ (∀ width', width ≤ width' → p ≤ margin position offset width' lines)
      ∧ ∀ lines', lines.Perm lines' → p = margin position offset width lines' := by
  intro width lines p
  refine ⟨isGreatest_margin hoffset hlines,
    messageBody?_eq r position hoffset pageWidth text,
    margin_eq_caret hoffset hlines, fun hpadded line hline => ?_,
    fun width' hwidth => margin_mono hoffset hwidth lines,
    fun lines' => margin_perm hoffset⟩
  have hfits : Fits position offset width lines p := fits_margin hoffset
  have := hfits.page.resolve_left hpadded line hline
  omega

/-- Of two lines under a caret in the third column, the wider one leaves room for a
padding of four on a page of twelve. -/
theorem messageBody_padded_two_lines :
    let position : Position :=
      Position.ofSite
        { source := { path := [], content := Text.ofString "abcdef" }
          span := ⟨1, 2, 1, 4, by decide, by decide, by decide⟩ }
    let r : Renderer := { pageWidth := 12 }
    let text := Text.ofString "wide\r\nno"
    (0 : Int) ≤ 4 ∧ Text.lineContents text ≠ []
      ∧ IsGreatest {p | Fits position 4 12 (Text.lineContents text) p} 4
      ∧ r.messageBody? position text 4 none
        = .ok (Text.ofString "    wide\n    no") := by
  intro position r text
  have hlines : Text.lineContents text ≠ [] := by decide
  obtain ⟨hgreatest, hbody, -⟩ :=
    messageBody_padded r position (show (0 : Int) ≤ 4 by decide) none hlines
  exact ⟨by decide, hlines, hgreatest, hbody⟩

/-- On a page that is wider than all indexes go, a message under a caret as far out
has a padding that fits, and that cannot be held. -/
theorem messageBody_unheld :
    let position : Position :=
      Position.ofSite
        { source := { path := ['p'], content := [] }
          span :=
            ⟨1, 9223372036854775808, 1, 9223372036854775808, by decide, by decide,
              by decide⟩ }
    let r : Renderer := { pageWidth := 18446744073709551616 }
    let lines := Text.lineContents ['t']
    lines ≠ []
      ∧ IsGreatest {p | Fits position 0 r.pageWidth lines p} 9223372036854775808
      ∧ r.messageBody? position ['t'] 0 none = .error .beyondIndex := by
  intro position r lines
  have hlines : lines ≠ [] := by decide
  have hgreatest : IsGreatest {p | Fits position 0 r.pageWidth lines p}
      (margin position 0 r.pageWidth lines) :=
    isGreatest_margin (Int.le_refl 0) hlines
  have hmargin : margin position 0 r.pageWidth lines = 9223372036854775808 := by
    decide +kernel
  rw [hmargin] at hgreatest
  exact ⟨hlines, hgreatest, by decide +kernel⟩

end DiagnosticConsole.Renderer
