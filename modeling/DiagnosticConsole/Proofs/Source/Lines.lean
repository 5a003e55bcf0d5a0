import DiagnosticConsole.Proofs.Text.Cuts
import DiagnosticConsole.Source.Span

/-!
# Lines and offsets

Two ways of finding a character have to agree: counting characters from the
start of the text, and counting lines and then the characters of a line. The
cuts of a text at an offset carry both. What stands before the offset has as
many line feeds as there are finished lines, and its characters since the last
of them are the column; so the line of the offset is that rest, and whatever
follows it up to the next line feed.

`getElem?_linesOf_append` says just that of a text that is cut in two, by
induction on the part before the cut. `span_eq_ok` carries it to spans: two
offsets in order always have one, and its lines and columns are those of the
two cuts.
-/

namespace DiagnosticConsole

namespace SourceFile

/-- The characters of a text since its last line feed. -/
def lastLine (t : Text) : Text := (t.reverse.takeWhile (· != '\n')).reverse

/-- The first line of a text, with its line feed. -/
def firstLine (t : Text) : Text := (linesOf t).headD []

theorem linesOf_ne_nil (t : Text) : linesOf t ≠ [] := by
  cases t with
  | nil => simp [linesOf]
  | cons c t =>
      rw [linesOf]
      split
      · simp
      · split <;> simp

theorem linesOf_eq_cons (t : Text) :
    linesOf t = firstLine t :: (linesOf t).tail := by
  cases h : linesOf t with
  | nil => exact absurd h (linesOf_ne_nil t)
  | cons line more => rw [firstLine, h]; rfl

theorem linesOf_newline_cons (t : Text) :
    linesOf ('\n' :: t) = ['\n'] :: linesOf t := by
  rw [linesOf, if_pos rfl]

theorem linesOf_cons {c : Char} (hc : c ≠ '\n') (t : Text) :
    linesOf (c :: t) = (c :: firstLine t) :: (linesOf t).tail := by
  rw [linesOf, if_neg hc, linesOf_eq_cons t]
  rfl

/-! ## The first line and the last

A text without a line feed is one line, so in front of another text it joins
the first line of that one, and behind another the last. -/

theorem firstLine_append {s : Text} (hs : '\n' ∉ s) (t : Text) :
    firstLine (s ++ t) = s ++ firstLine t := by
  induction s with
  | nil => rfl
  | cons c s ih =>
      rw [List.mem_cons, not_or] at hs
      rw [List.cons_append, firstLine, linesOf_cons (Ne.symm hs.1), ih hs.2]
      rfl

/-- The first line is what comes before the first line feed, and that one. -/
theorem firstLine_eq (t : Text) :
    firstLine t
      = t.takeWhile (· != '\n') ++ if '\n' ∈ t then ['\n'] else [] := by
  induction t with
  | nil => rfl
  | cons c t ih =>
      by_cases hc : c = '\n'
      · subst hc
        rw [firstLine, linesOf_newline_cons]
        simp
      · rw [firstLine, linesOf_cons hc, List.headD_cons, ih]
        simp [hc, Ne.symm hc]

theorem lastLine_append {t : Text} (ht : '\n' ∉ t) (s : Text) :
    lastLine (s ++ t) = lastLine s ++ t := by
  have hall : ∀ c ∈ t.reverse, (c != '\n') = true := by
    intro c hc
    rw [bne_iff_ne]
    rintro rfl
    exact ht (List.mem_reverse.mp hc)
  rw [lastLine, List.reverse_append, List.takeWhile_append_of_pos hall,
    List.reverse_append, List.reverse_reverse]
  rfl

theorem lastLine_of_not_mem {t : Text} (ht : '\n' ∉ t) : lastLine t = t :=
  lastLine_append ht []

/-- Whatever comes before a line feed is no part of the last line. -/
theorem lastLine_cons {c : Char} {t : Text} (h : '\n' ∈ c :: t) :
    lastLine (c :: t) = lastLine t := by
  rw [lastLine, List.reverse_cons, List.takeWhile_append]
  split
  · next hlen =>
      have hself : t.reverse.takeWhile (· != '\n') = t.reverse :=
        (List.takeWhile_prefix _).eq_of_length hlen
      have ht : '\n' ∉ t := by
        intro hmem
        have hall := List.all_takeWhile (p := (· != '\n')) (l := t.reverse)
        rw [hself, List.all_eq_true] at hall
        have := hall '\n' (List.mem_reverse.mpr hmem)
        simp at this
      obtain rfl : '\n' = c := (List.mem_cons.mp h).resolve_right ht
      rw [lastLine, hself]
      simp
  · rfl

theorem length_lastLine (t : Text) : (lastLine t).length = columnAfter t := by
  rw [lastLine, List.length_reverse, columnAfter]

theorem columnAfter_append {t : Text} (ht : '\n' ∉ t) (s : Text) :
    columnAfter (s ++ t) = columnAfter s + t.length := by
  rw [← length_lastLine, lastLine_append ht, List.length_append, length_lastLine]

/-! ## The line of an offset -/

/-- The line that a cut of a text falls on: the last line of what stands before
the cut and the first of what comes after it. -/
theorem getElem?_linesOf_append (s t : Text) :
    (linesOf (s ++ t))[s.count '\n']? = some (lastLine s ++ firstLine t) := by
  induction s with
  | nil => rw [List.nil_append, linesOf_eq_cons]; rfl
  | cons c s ih =>
      rw [List.cons_append]
      by_cases hc : c = '\n'
      · subst hc
        rw [linesOf_newline_cons, List.count_cons_self, List.getElem?_cons_succ,
          lastLine_cons (by simp)]
        exact ih
      · rw [linesOf_cons hc, List.count_cons_of_ne (by exact hc)]
        by_cases hs : '\n' ∈ s
        · obtain ⟨k, hk⟩ : ∃ k, s.count '\n' = k + 1 :=
            Nat.exists_eq_succ_of_ne_zero
              (Nat.ne_of_gt (List.count_pos_iff.mpr hs))
          rw [lastLine_cons (List.mem_cons_of_mem c hs), ← ih, hk,
            List.getElem?_cons_succ, linesOf_eq_cons (s ++ t)]
          rfl
        · have hcs : '\n' ∉ c :: s := by simp [hs, Ne.symm hc]
          rw [List.count_eq_zero_of_not_mem hs, lastLine_of_not_mem hcs,
            firstLine_append hs]
          rfl

theorem lineContent_eq_of_getElem? {file : SourceFile} {line : Nat} {row : Text}
    (hfirst : 1 ≤ line) (hrow : (linesOf file.content)[line - 1]? = some row) :
    file.lineContent line = row := by
  rw [lineContent, if_neg (by omega), lines, List.getD_eq_getElem?_getD,
    show ((line : Int) - 1).toNat = line - 1 by omega, hrow]
  rfl

theorem lineContent_append (path s t : Text) :
    (SourceFile.mk path (s ++ t)).lineContent (1 + s.count '\n' : Nat)
      = lastLine s ++ firstLine t := by
  refine lineContent_eq_of_getElem? (Nat.le_add_right 1 _) ?_
  rw [Nat.add_sub_cancel_left]
  exact getElem?_linesOf_append s t

/-! ## Spans from offsets -/

theorem lineAndColumn_eq_ok (file : SourceFile) {offset : Nat}
    (h : offset ≤ file.content.length) :
    file.lineAndColumn offset
      = .ok (1 + (file.content.take offset).count '\n',
          columnAfter (file.content.take offset)) := by
  rw [lineAndColumn, if_neg (by omega), Int.toNat_natCast]

end SourceFile

/-- Two places in order, neither before the first line or column, have a span
between them. -/
theorem Span.between_eq_ok (startLine startColumn endLine endColumn : Int)
    (hfirst : 1 ≤ startLine) (hstart : 0 ≤ startColumn) (hend : 0 ≤ endColumn)
    (hlines : startLine ≤ endLine)
    (hcolumns : startLine = endLine → startColumn ≤ endColumn) :
    ∃ span, Span.between startLine startColumn endLine endColumn = .ok span
      ∧ (span.startLine : Int) = startLine
      ∧ (span.startColumn : Int) = startColumn
      ∧ (span.endLine : Int) = endLine ∧ (span.endColumn : Int) = endColumn := by
  rw [Span.between, dif_neg (by omega), dif_neg (by omega), dif_neg (by omega)]
  exact ⟨_, rfl, Int.toNat_of_nonneg (by omega), Int.toNat_of_nonneg hstart,
    Int.toNat_of_nonneg (by omega), Int.toNat_of_nonneg hend⟩

namespace SourceFile

/-- Two offsets in order have a span, and it goes from the one cut of the text
to the other. -/
theorem span_eq_ok (file : SourceFile) {start stop : Nat} (hle : start ≤ stop)
    (hstop : stop ≤ file.content.length) :
    ∃ span : Span, file.span start (some (stop : Int)) = .ok span
      ∧ span.startLine = 1 + (file.content.take start).count '\n'
      ∧ span.startColumn = columnAfter (file.content.take start)
      ∧ span.endLine = 1 + (file.content.take stop).count '\n'
      ∧ span.endColumn = columnAfter (file.content.take stop) := by
  have hcut := Text.take_append_slice file.content hle
  have hcount : (file.content.take stop).count '\n'
      = (file.content.take start).count '\n'
        + (Text.slice file.content start stop).count '\n' := by
    rw [← hcut, List.count_append]
  have hcolumns : 1 + (file.content.take start).count '\n'
        = 1 + (file.content.take stop).count '\n' →
      columnAfter (file.content.take start)
        ≤ columnAfter (file.content.take stop) := by
    intro heq
    have hnone : '\n' ∉ Text.slice file.content start stop :=
      List.count_eq_zero.mp (by omega)
    rw [← hcut, columnAfter_append hnone]
    omega
  obtain ⟨span, hspan, hline, hcolumn, hline', hcolumn'⟩ :=
    Span.between_eq_ok (1 + (file.content.take start).count '\n' : Nat)
      (columnAfter (file.content.take start))
      (1 + (file.content.take stop).count '\n' : Nat)
      (columnAfter (file.content.take stop))
      (by omega) (by omega) (by omega) (by omega) (by omega)
  refine ⟨span, ?_, by omega, by omega, by omega, by omega⟩
  rw [SourceFile.span, lineAndColumn_eq_ok file (by omega)]
  simp only [Option.getD_some]
  rw [lineAndColumn_eq_ok file hstop]
  exact hspan

end SourceFile

end DiagnosticConsole
