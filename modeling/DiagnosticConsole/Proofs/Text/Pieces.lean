import DiagnosticConsole.Text.Basic

/-!
# Texts below each other and apart again

Pieces are what the library calls `splitOn` for lists, and texts put together with a
separator are `intercalate`. So texts that do not have the separator are the
pieces of what they are put together to.
-/

namespace DiagnosticConsole.Text

theorem pieces_eq_splitOn (separator : Char) (t : Text) :
    pieces separator t = t.splitOn separator := by
  rw [List.splitOn_eq_splitOnP]
  induction t with
  | nil => rfl
  | cons c t ih =>
      rw [pieces, List.splitOnP_cons_eq_if_modifyHead, ih]
      simp only [beq_iff_eq]
      split
      · rfl
      · cases h : List.splitOnP (· == separator) t with
        | nil => exact absurd h (List.splitOnP_ne_nil _ t)
        | cons piece more => rfl

theorem join_eq_intercalate (separator : Text) (texts : List Text) :
    join separator texts = separator.intercalate texts := by
  induction texts with
  | nil => rfl
  | cons t rest ih =>
      cases rest with
      | nil => simp [join, List.intercalate]
      | cons u rest => rw [join, ih, List.intercalate_cons_cons]

/-- Lines that have no line feed come apart again where they were put
together. -/
theorem pieces_unlines {lines : List Text} (hne : lines ≠ [])
    (h : ∀ line ∈ lines, '\n' ∉ line) : pieces '\n' (unlines lines) = lines := by
  rw [pieces_eq_splitOn, unlines, join_eq_intercalate,
    List.splitOn_intercalate '\n' h hne]

/-- Nothing comes of no lines and of a single empty one. -/
theorem unlines_eq_nil_iff {lines : List Text} :
    unlines lines = [] ↔ lines = [] ∨ lines = [[]] := by
  cases lines with
  | nil => simp [unlines, join]
  | cons line rest =>
      cases rest with
      | nil => simp [unlines, join]
      | cons line' rest => simp [unlines, join]

end DiagnosticConsole.Text
