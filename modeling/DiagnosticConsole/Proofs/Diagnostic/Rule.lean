import DiagnosticConsole.Proofs.Diagnostic.Extent
import DiagnosticConsole.Proofs.Terminal.Width

/-!
# Header lines are as wide as the page

What a header line says is measured once, and the room that is left is filled with
dashes. That the whole line then has the width of the page is not a matter of
subtraction alone. The dashes have to take a cell each where they stand, behind a
kind and a path that may hold anything, half an escape sequence included; they do,
because what a header line says ends in a blank (`Terminal.width_append_dashes`).
-/

namespace DiagnosticConsole.Renderer

theorem headline_eq_concat (kind : Text) (file : Option Text) :
    ∃ t, headline kind file = t ++ [' '] := by
  cases file with
  | none => exact ⟨_, rfl⟩
  | some path => exact ⟨_, rfl⟩

theorem ruleLength_nonneg (kind : Text) (file : Option Text) (pageWidth : Int) :
    0 ≤ ruleLength kind file pageWidth :=
  Int.le_max_right _ _

theorem width_headerLine (kind : Text) (file : Option Text) (pageWidth : Int) :
    (Terminal.width (headerLine kind file pageWidth) : Int)
      = max pageWidth (Terminal.width (headline kind file)) := by
  have hdashes : (Terminal.width (headerLine kind file pageWidth) : Int)
      = Terminal.width (headline kind file)
        + ruleLength kind file pageWidth := by
    have hroom := Int.toNat_of_nonneg (ruleLength_nonneg kind file pageWidth)
    obtain ⟨t, ht⟩ := headline_eq_concat kind file
    rw [headerLine, rule, Text.copies, ht, Terminal.width_append_dashes]
    omega
  rw [hdashes, ruleLength]
  omega

/-- Whatever its kind and its path hold, a header line is as wide as the page, or as
what it says if that is wider, and painting leaves its width alone. There is no
header line only where its dashes cannot be held. -/
theorem headerLine_fills_page (room : Nat) (kind : Text) (file : Option Text)
    (pageWidth : Int) (palette : Palette) (color : Color) :
    let line := headerLine kind file pageWidth
    let dashes := ruleLength kind file pageWidth
    headerLine? room kind file pageWidth
        = (if Extent.pastIndexes ≤ dashes then .error .beyondIndex
          else if room < dashes then .error .beyondMemory
          else .ok line)
      ∧ dashes = max (pageWidth - Terminal.width (headline kind file)) 0
      ∧ (Terminal.width line : Int)
        = max pageWidth (Terminal.width (headline kind file))
      ∧ Terminal.width (palette.paint color line) = Terminal.width line :=
  ⟨Extent.drawn_singleton (ruleLength_nonneg kind file pageWidth) _, rfl,
    width_headerLine kind file pageWidth, Terminal.width_paint palette color _⟩

/-- A path that a hyperlink begins in and that has a wide character. -/
example :
    let file := some (Text.ofString "\x1b]8;;世")
    Terminal.width (headline ['k'] file) = 13
      ∧ Terminal.width (headerLine ['k'] file 20) = 20 := by
  decide +kernel

/-- On a page that is wider than all indexes go, there is no header line, however
much room there is. -/
theorem headerLine?_unheld :
    ¬ ∃ room line, headerLine? room ['k'] none 18446744073709551616 = .ok line := by
  have hdashes : Extent.pastIndexes ≤ ruleLength ['k'] none 18446744073709551616 := by
    decide +kernel
  rintro ⟨room, line, hline⟩
  rw [headerLine?, Extent.drawn_singleton (ruleLength_nonneg _ _ _), if_pos hdashes]
    at hline
  cases hline

end DiagnosticConsole.Renderer
