import DiagnosticConsole.Proofs.Source.Places
import Mathlib.Data.Prod.Lex

/-!
# A span keeps the text it was built from

The span between two offsets is four numbers, and the offsets are gone. They are
not needed any more: the lines of the file give back the text between them. A
text is cut into what stands before the span, what it covers and what follows.
If there is no line feed in the span, one line has all of it, between the two
columns. Otherwise the line it starts on ends with the first line of the span,
the line it ends on begins with the last, and the lines between the two are the
lines between (`drop_linesOf_append`).

The order of the offsets is asked for nowhere. Each has its place, and places in
the wrong order have no span between them; which of the two ways they are wrong
tells whether the text between them has a line feed.
-/

namespace DiagnosticConsole.SourceFile

/-- The text that a span covers, by the lines of the file. -/
def textOf (file : SourceFile) (span : Span) : Text :=
  if span.isSingleLine then
    Text.slice (file.lineContent span.startLine) span.startColumn span.endColumn
  else
    (file.lineContent span.startLine).drop span.startColumn
      ++ (List.range' (span.startLine + 1)
          (span.endLine - span.startLine - 1)).flatMap
        (fun line : Nat => file.lineContent line)
      ++ (file.lineContent span.endLine).take span.endColumn

/-! ## Lines behind a cut -/

/-- Behind the line that a cut falls on, the lines are those of what comes after
the cut. -/
theorem drop_linesOf_append (s t : Text) :
    (linesOf (s ++ t)).drop (s.count '\n' + 1) = (linesOf t).tail := by
  induction s with
  | nil => rw [List.nil_append, List.count_nil, Nat.zero_add, List.drop_one]
  | cons c s ih =>
      rw [List.cons_append]
      by_cases hc : c = '\n'
      · rw [hc, linesOf_newline_cons, List.count_cons_self, List.drop_succ_cons]
        exact ih
      · rw [linesOf_cons hc, List.count_cons_of_ne hc, List.drop_succ_cons,
          List.drop_tail]
        exact ih

theorem lastLine_append_of_mem {t : Text} (ht : '\n' ∈ t) (s : Text) :
    lastLine (s ++ t) = lastLine t := by
  induction s with
  | nil => rfl
  | cons c s ih =>
      rw [List.cons_append, lastLine_cons (by simp [ht])]
      exact ih

/-- The lines with some consecutive numbers, as they stand in the file. -/
theorem flatMap_lineContent (file : SourceFile) {first n : Nat}
    (h : first + n ≤ file.lineCount) :
    (List.range' (first + 1) n).flatMap (fun line : Nat => file.lineContent line)
      = ((file.lines.drop first).take n).flatten := by
  have hlines : (file.lines.drop first).take n
      = (List.range' (first + 1) n).map fun line : Nat => file.lineContent line := by
    apply List.ext_getElem
    · simp only [List.length_take, List.length_drop, List.length_map,
        List.length_range']
      rw [lineCount] at h
      omega
    · intro i hi _
      simp only [lines_eq_map, List.getElem_take, List.getElem_drop,
        List.getElem_map, List.getElem_range, List.getElem_range']
      congr 1
      omega
  rw [hlines, List.flatMap_def]

/-! ## The text of a span -/

/-- The span from one cut of a text to a later one covers what stands between
them. -/
theorem textOf_append (path : Text) {s m : Text} (e : Text) {span : Span}
    (hstartLine : span.startLine = 1 + s.count '\n')
    (hstartColumn : span.startColumn = columnAfter s)
    (hendLine : span.endLine = 1 + (s ++ m).count '\n')
    (hendColumn : span.endColumn = columnAfter (s ++ m)) :
    (SourceFile.mk path (s ++ (m ++ e))).textOf span = m := by
  have hstart := lineContent_append path s (m ++ e)
  rw [← hstartLine] at hstart
  rw [textOf, hstart]
  by_cases hm : '\n' ∈ m
  · have hpos := List.count_pos_iff.mpr hm
    have hcount : (s ++ m).count '\n' = s.count '\n' + m.count '\n' :=
      List.count_append
    have hsingle : ¬ span.isSingleLine = true := by
      rw [Span.isSingleLine, decide_eq_true_eq]
      omega
    have hend := lineContent_append path (s ++ m) e
    rw [← hendLine, List.append_assoc] at hend
    have htotal : (SourceFile.mk path (s ++ (m ++ e))).lineCount
        = 1 + (s.count '\n' + (m.count '\n' + e.count '\n')) := by
      rw [lineCount, lines, length_linesOf, List.count_append, List.count_append]
    have hlines : span.endLine - span.startLine - 1 = m.count '\n' - 1 := by omega
    rw [if_neg hsingle, hend, hlines,
      flatMap_lineContent _ (by omega), lines, hstartLine, Nat.add_comm 1,
      drop_linesOf_append, hstartColumn, hendColumn, ← length_lastLine,
      ← length_lastLine, List.drop_left, List.take_left,
      lastLine_append_of_mem hm]
    -- the three parts are the lines of `m e` up to the last line feed of `m`,
    -- and what `m` has behind it
    have hflat := flatten_take_linesOf m e
    obtain ⟨k, hk⟩ : ∃ k, m.count '\n' = k + 1 := ⟨m.count '\n' - 1, by omega⟩
    rw [hk, linesOf_eq_cons (m ++ e), List.take_succ_cons, List.flatten_cons]
      at hflat
    rw [hk, Nat.add_sub_cancel]
    exact hflat
  · have hsingle : span.isSingleLine = true := by
      rw [Span.isSingleLine, decide_eq_true_eq, hstartLine, hendLine,
        List.count_append, List.count_eq_zero_of_not_mem hm, Nat.add_zero]
    rw [columnAfter_append hm, ← length_lastLine] at hendColumn
    rw [← length_lastLine] at hstartColumn
    rw [if_pos hsingle, firstLine_append hm, hstartColumn, hendColumn,
      Text.slice_eq_drop_take, ← List.append_assoc, ← List.length_append,
      List.take_left, List.drop_left]

/-! ## Offsets in order -/

/-- Two offsets in order have a span that ends no earlier than it starts, and from
which the text between them can be read off. -/
theorem span_of_le (file : SourceFile) {start stop : Nat} (hle : start ≤ stop)
    (hstop : stop ≤ file.content.length) :
    ∃ span, file.span start (some (stop : Int)) = .ok span
      ∧ toLex (span.startLine, span.startColumn)
        ≤ toLex (span.endLine, span.endColumn)
      ∧ (span.isSingleLine = true
        ↔ '\n' ∉ Text.slice file.content start stop)
      ∧ file.textOf span = Text.slice file.content start stop := by
  obtain ⟨span, hspan, hline, hcolumn, hline', hcolumn'⟩ :=
    span_eq_ok file hle hstop
  have hcut := Text.take_append_slice file.content hle
  have hwhole := List.take_append_drop stop file.content
  rw [← hcut, List.append_assoc] at hwhole
  rw [← hcut] at hline' hcolumn'
  refine ⟨span, hspan, ?_, ?_, ?_⟩
  · have hlines := span.startLine_le_endLine
    have hcolumns := span.startColumn_le_endColumn
    rw [Prod.Lex.toLex_le_toLex]
    simp only []
    omega
  · rw [Span.isSingleLine, decide_eq_true_eq, hline, hline', List.count_append,
      ← List.count_eq_zero]
    omega
  · have htext := textOf_append file.path (file.content.drop stop) hline hcolumn
      hline' hcolumn'
    rwa [hwhole] at htext

/-! ## Offsets that have no span -/

/-- What keeps two integers from having a span: one is no offset of the text, or
they are in the wrong order. Then the lines of their places are, or if there is no
line feed between the two, the columns. -/
def spanFault (file : SourceFile) (start stop : Int) : SpanFault :=
  if start < 0 ∨ (file.content.length : Int) < start then
    .outside start file.path
  else if stop < 0 ∨ (file.content.length : Int) < stop then
    .outside stop file.path
  else if '\n' ∈ Text.slice file.content stop start then .linesReversed
  else .columnsReversed

theorem span_of_gt {file : SourceFile} {start stop : Nat} (hlt : stop < start)
    (hstart : start ≤ file.content.length) :
    file.span start (some (stop : Int))
      = .error (if '\n' ∈ Text.slice file.content stop start then .linesReversed
          else .columnsReversed) := by
  have hcut := Text.take_append_slice file.content (Nat.le_of_lt hlt)
  have hcount : (file.content.take start).count '\n'
      = (file.content.take stop).count '\n'
        + (Text.slice file.content stop start).count '\n' := by
    rw [← hcut, List.count_append]
  rw [span, lineAndColumn_eq_ok file hstart]
  simp only [Option.getD_some]
  rw [lineAndColumn_eq_ok file (Nat.le_trans (Nat.le_of_lt hlt) hstart)]
  simp only []
  rw [Span.between, dif_neg (by omega)]
  by_cases hmem : '\n' ∈ Text.slice file.content stop start
  · have hpos := List.count_pos_iff.mpr hmem
    rw [if_pos hmem, dif_pos (by omega)]
  · have hzero := List.count_eq_zero_of_not_mem hmem
    have hcolumn : columnAfter (file.content.take start)
        = columnAfter (file.content.take stop) + (start - stop) := by
      rw [← hcut, columnAfter_append hmem, Text.length_slice,
        Nat.min_eq_left hstart]
    rw [if_neg hmem, dif_neg (by omega), dif_pos (by omega)]

theorem span_eq_error {file : SourceFile} {start stop : Int}
    (h : ¬ (0 ≤ start ∧ start ≤ stop ∧ stop ≤ file.content.length)) :
    file.span start (some stop) = .error (file.spanFault start stop) := by
  rw [spanFault]
  split
  · next hout =>
      rw [span, lineAndColumn_eq_error_iff.mpr ⟨rfl, hout⟩]
  · next hin =>
      obtain ⟨a, rfl⟩ := Int.eq_ofNat_of_zero_le (a := start) (by omega)
      split
      · next hout =>
          rw [span, lineAndColumn_eq_ok file (by omega)]
          simp only [Option.getD_some]
          rw [lineAndColumn_eq_error_iff.mpr ⟨rfl, hout⟩]
      · next hin' =>
          obtain ⟨b, rfl⟩ := Int.eq_ofNat_of_zero_le (a := stop) (by omega)
          exact span_of_gt (by omega) (by omega)

/-- Two integers have a span just if they are offsets of the text and in order.
The span ends no earlier than it starts, is on one line just if the text between
the offsets is, and gives that text back. All others have no span, for the first
reason there is. -/
theorem span_keeps_text (file : SourceFile) (start stop : Int) :
    ((∃ span, file.span start (some stop) = .ok span)
      ↔ 0 ≤ start ∧ start ≤ stop ∧ stop ≤ file.content.length)
    ∧ (∀ fault, file.span start (some stop) = .error fault →
      fault = file.spanFault start stop)
    ∧ ∀ span, file.span start (some stop) = .ok span →
      toLex (span.startLine, span.startColumn)
          ≤ toLex (span.endLine, span.endColumn)
        ∧ (span.isSingleLine = true
          ↔ '\n' ∉ Text.slice file.content start stop)
        ∧ file.textOf span = Text.slice file.content start stop := by
  by_cases hin : 0 ≤ start ∧ start ≤ stop ∧ stop ≤ file.content.length
  · obtain ⟨a, rfl⟩ := Int.eq_ofNat_of_zero_le hin.1
    obtain ⟨b, rfl⟩ := Int.eq_ofNat_of_zero_le (Int.le_trans hin.1 hin.2.1)
    obtain ⟨span, hspan, hexact⟩ :=
      file.span_of_le (show a ≤ b by omega) (by omega)
    rw [hspan]
    refine ⟨⟨fun _ => hin, fun _ => ⟨span, rfl⟩⟩, fun fault h => ?_,
      fun span' h => ?_⟩
    · cases h
    · cases h
      exact hexact
  · rw [span_eq_error hin]
    refine ⟨⟨?_, fun h => absurd h hin⟩, fun fault h => ?_, fun span h => ?_⟩
    · rintro ⟨span, h⟩
      cases h
    · cases h
      rfl
    · cases h

/-- A span that starts on a line feed and goes over an empty line, and the same
two offsets the other way round. -/
theorem span_keeps_text_empty_line :
    let file : SourceFile :=
      { path := Text.ofString "a", content := Text.ofString "x\n\nyz" }
    let span : Span := ⟨1, 1, 3, 1, by decide, by decide, by decide⟩
    file.span 1 (some 4) = .ok span ∧ file.textOf span = Text.ofString "\n\ny"
      ∧ span.isSingleLine = false
      ∧ file.span 4 (some 1) = .error .linesReversed
      ∧ SpanFault.linesReversed = file.spanFault 4 1 := by
  intro file span
  have hspan : file.span 1 (some 4) = .ok span := by decide
  have hfault : file.span 4 (some 1) = .error .linesReversed := by decide
  obtain ⟨-, -, htext⟩ := (span_keeps_text file 1 4).2.2 span hspan
  exact ⟨hspan, htext, rfl, hfault,
    (span_keeps_text file 4 1).2.1 .linesReversed hfault⟩

end DiagnosticConsole.SourceFile
