import DiagnosticConsole.Text.Blank

/-!
# The ends of a text

Line terminators and blanks are taken off the ends of a text, never out of its
middle, so what is left is a piece of the text as it stands.
-/

namespace DiagnosticConsole.Text

theorem dropWhileEnd_isPrefix (p : Char → Bool) (t : Text) :
    dropWhileEnd p t <+: t := by
  obtain ⟨s, hs⟩ := List.dropWhile_suffix (l := t.reverse) p
  refine ⟨s.reverse, ?_⟩
  rw [dropWhileEnd, ← List.reverse_append, hs, List.reverse_reverse]

theorem dropWhileEnd_concat {p : Char → Bool} {c : Char} (hc : p c = true)
    (t : Text) : dropWhileEnd p (t ++ [c]) = dropWhileEnd p t := by
  rw [dropWhileEnd, List.reverse_append, List.reverse_singleton,
    List.singleton_append, List.dropWhile_cons_of_pos hc]
  rfl

theorem dropWhileEnd_concat_of_neg {p : Char → Bool} {c : Char}
    (hc : ¬ p c = true) (t : Text) : dropWhileEnd p (t ++ [c]) = t ++ [c] := by
  rw [dropWhileEnd, List.reverse_append, List.reverse_singleton,
    List.singleton_append, List.dropWhile_cons_of_neg hc, List.reverse_cons,
    List.reverse_reverse]

theorem dropWhileEnd_eq_nil_iff {p : Char → Bool} {t : Text} :
    dropWhileEnd p t = [] ↔ t.all p = true := by
  rw [dropWhileEnd, List.reverse_eq_nil_iff, ← List.all_reverse]
  induction t.reverse with
  | nil => simp
  | cons c s ih =>
      by_cases hc : p c = true
      · rw [List.dropWhile_cons_of_pos hc, ih, List.all_cons, hc, Bool.true_and]
      · rw [List.dropWhile_cons_of_neg hc]
        simp [hc]

/-! ## Line terminators -/

theorem withoutTerminator_isPrefix (t : Text) : withoutTerminator t <+: t :=
  dropWhileEnd_isPrefix _ t

/-- The line feed that ends a line is not shown. -/
theorem withoutTerminator_concat_newline (t : Text) :
    withoutTerminator (t ++ ['\n']) = withoutTerminator t :=
  dropWhileEnd_concat rfl t

/-! ## Blanks -/

/-- Nothing is left of a text without its outer blanks just if it is all
blank. -/
theorem trim_eq_nil_iff {t : Text} : trim t = [] ↔ t.all isBlank = true := by
  rw [trim, dropWhileEnd_eq_nil_iff, trimStart]
  induction t with
  | nil => simp
  | cons c s ih =>
      by_cases hc : isBlank c = true
      · rw [List.dropWhile_cons_of_pos hc, ih, List.all_cons, hc, Bool.true_and]
      · rw [List.dropWhile_cons_of_neg hc]

end DiagnosticConsole.Text
