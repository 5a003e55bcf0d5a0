import DiagnosticConsole.Diagnostic.Extent
import DiagnosticConsole.Proofs.Terminal.Escape
import Mathlib.Data.List.Forall2

/-!
# A palette changes nothing but colours

Two renderers that differ in their palettes draw the same diagnostic, line by
line, once colours are taken out of what they draw. Everything that is measured
is measured before it is painted, so also what keeps a diagnostic from being
drawn is the same for both.

Whatever is painted goes through `stripColor_paint`, which asks nothing of the
text. Only the marker is put together in two ways: on one line the carets alone
are painted, and the margin in front of them is free of escape characters.
-/

namespace DiagnosticConsole

/-- Two texts are the same once colours are taken out. -/
def Text.SameButColors (s t : Text) : Prop :=
  Escape.stripColor s = Escape.stripColor t

/-- Two blocks have as many lines, above and below, and each two that correspond
are the same but for colours. -/
structure Block.SameButColors (block block' : Block) : Prop where
  header : List.Forall₂ Text.SameButColors block.header block'.header
  body : List.Forall₂ Text.SameButColors block.body block'.body

theorem Text.SameButColors.refl (t : Text) : t.SameButColors t := rfl

theorem Text.SameButColors.paint (palette palette' : Palette) (color : Color)
    (t : Text) :
    (palette.paint color t).SameButColors (palette'.paint color t) := by
  rw [Text.SameButColors, Escape.stripColor_paint, Escape.stripColor_paint]

theorem Text.SameButColors.append_left {s t : Text} (h : s.SameButColors t)
    {a : Text} (ha : Escape.esc ∉ a) : (a ++ s).SameButColors (a ++ t) := by
  rw [Text.SameButColors, Escape.stripColor, Escape.stripColor,
    Escape.color_takesColors.remove_plain_append ha,
    Escape.color_takesColors.remove_plain_append ha]
  exact congrArg (a ++ ·) h

/-- Lines that are all the same but for colours, each with itself. -/
theorem forall₂_sameButColors (lines : List Text) :
    List.Forall₂ Text.SameButColors lines lines :=
  List.forall₂_same.mpr fun t _ => .refl t

theorem forall₂_sameButColors_paint (palette palette' : Palette)
    (color : Color) (lines : List Text) :
    List.Forall₂ Text.SameButColors (lines.map (palette.paint color))
      (lines.map (palette'.paint color)) := by
  rw [List.forall₂_map_left_iff, List.forall₂_map_right_iff]
  exact List.forall₂_same.mpr fun t _ => .paint palette palette' color t

namespace Renderer

/-- A renderer with another palette. -/
def withPalette (r : Renderer) (palette : Palette) : Renderer :=
  { r with palette }

variable (r : Renderer) (palette palette' : Palette)

theorem header_sameButColors (position : Option Position) (kind : Text)
    (pageWidth : Option Int) :
    List.Forall₂ Text.SameButColors
      ((r.withPalette palette).header position kind pageWidth)
      ((r.withPalette palette').header position kind pageWidth) :=
  forall₂_sameButColors_paint palette palette' .blue _

theorem columnMarker_sameButColors (position : Position) (offset : Int) :
    ((r.withPalette palette).columnMarker position offset).SameButColors
      ((r.withPalette palette').columnMarker position offset) := by
  rw [columnMarker, columnMarker]
  split
  · refine (Text.SameButColors.paint palette palette' .red _).append_left ?_
    intro hesc
    exact absurd (List.eq_of_mem_replicate hesc) (by decide)
  · exact .paint palette palette' .red _

theorem render_sameButColors (message : Message) (position : Option Position)
    (kind : Option Text) (pageWidth : Option Int) :
    ((r.withPalette palette).render message position kind
        pageWidth).SameButColors
      ((r.withPalette palette').render message position kind pageWidth) := by
  refine ⟨?_, ?_⟩
  · cases position with
    | none => exact r.header_sameButColors palette palette' none _ pageWidth
    | some p => exact r.header_sameButColors palette palette' (some p) _ pageWidth
  · cases position with
    | none => exact forall₂_sameButColors _
    | some p =>
        exact .cons (.refl _)
          (.cons (r.columnMarker_sameButColors palette palette' p _)
            (forall₂_sameButColors _))

theorem renderExplanation_sameButColors (message : Message) :
    ((r.withPalette palette).renderExplanation message).SameButColors
      ((r.withPalette palette').renderExplanation message) := by
  rw [renderExplanation, renderExplanation]
  cases message.explanation? with
  | none => exact ⟨.nil, .nil⟩
  | some explanation =>
      have hbanner : ∀ t : Text,
          ((r.withPalette palette).palette.paint .blue t).SameButColors
            ((r.withPalette palette').palette.paint .blue t) :=
        fun t => .paint palette palette' .blue t
      exact ⟨.cons (.refl _) (.cons (hbanner _) (.cons (hbanner _) .nil)),
        forall₂_sameButColors _⟩

/-- With whatever palettes a message is drawn, the blocks are the same but for
colours, and so are those of its explanation; if it cannot be drawn with the one,
it cannot with the other, for the same reason. -/
theorem palette_changes_colors_only (message : Message)
    (position : Option Position) (kind : Option Text) (pageWidth : Option Int) :
    let painted := r.withPalette palette
    let painted' := r.withPalette palette'
    (painted.render message position kind pageWidth).SameButColors
        (painted'.render message position kind pageWidth)
      ∧ ((∃ block block',
          painted.render? message position kind pageWidth = .ok block
            ∧ painted'.render? message position kind pageWidth = .ok block'
            ∧ block.SameButColors block')
        ∨ ∃ fault,
          painted.render? message position kind pageWidth = .error fault
            ∧ painted'.render? message position kind pageWidth = .error fault)
      ∧ (painted.renderExplanation message).SameButColors
        (painted'.renderExplanation message) := by
  intro painted painted'
  have hrender := r.render_sameButColors palette palette' message position kind
    pageWidth
  have hruns : painted'.runs message position kind pageWidth
      = painted.runs message position kind pageWidth := rfl
  have hroom : painted'.room = painted.room := rfl
  refine ⟨hrender, ?_, r.renderExplanation_sameButColors palette palette' message⟩
  rw [render?, render?, Extent.drawn, Extent.drawn, hruns, hroom]
  cases Extent.checkAll painted.room (painted.runs message position kind pageWidth) with
  | ok _ => exact .inl ⟨_, _, rfl, rfl, hrender⟩
  | error fault => exact .inr ⟨fault, rfl, rfl⟩

/-- A path that ends in the middle of a colour. -/
example :
    let position := Position.ofSite
      { source := { path := Text.ofString "\x1b[3", content := [] }
        span :=
          { startLine := 1, startColumn := 0, endLine := 1, endColumn := 0
            one_le_startLine := by decide, startLine_le_endLine := by decide
            startColumn_le_endColumn := by decide } }
    let header (palette : Palette) :=
      ({ pageWidth := 0, palette } : Renderer).header (some position) ['k'] none
    header {} ≠ header { enabled := false }
      ∧ (header {}).map Escape.stripColor
        = [Text.ofString "-- k: \x1b[3 "] := by
  decide +kernel

end Renderer

end DiagnosticConsole
