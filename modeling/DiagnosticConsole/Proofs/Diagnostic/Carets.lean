import DiagnosticConsole.Proofs.Diagnostic.Extent
import DiagnosticConsole.Proofs.Source.Lines
import DiagnosticConsole.Proofs.Text.Ends
import Mathlib.Data.List.Basic

/-!
# Carets stand under the text they are about

A diagnostic that is not coloured shows the source line of its span and below
it a line of carets. Read together, the characters above the carets are the
text of the span. For a span on one line there is a caret under each of its
characters; one that goes on past its line has a single caret, under its first.

The margin of the carets is the width of the line number and the column of the
span. The column is the length of the last line before the span
(`columnAfter`), and the excerpt begins with the line number and that same
line, so the carets begin where the text of the span does. The rest is the
width of the span, which the columns of its two ends are apart by.

What is shown of a line ends before its terminator. A span that reaches into
the terminator has carets past the end of the excerpt, so both statements ask
that the text under the carets is shown.
-/

namespace DiagnosticConsole

namespace SourceFile

/-- The line that an offset of a text lies on, as it is shown: without what
ends it. -/
def shownLine (t : Text) (offset : Nat) : Text :=
  Text.withoutTerminator
    (lastLine (t.take offset) ++ (t.drop offset).takeWhile (· != '\n'))

/-- The offset at which the line of an offset ends, as far as it is shown. -/
def shownEnd (t : Text) (offset : Nat) : Nat :=
  offset - columnAfter (t.take offset) + (shownLine t offset).length

theorem columnAfter_le_length (t : Text) : columnAfter t ≤ t.length := by
  rw [columnAfter]
  exact Nat.le_trans (List.takeWhile_sublist _).length_le
    (Nat.le_of_eq List.length_reverse)

theorem withoutTerminator_lineContent (file : SourceFile) (offset : Nat) :
    Text.withoutTerminator
        (file.lineContent (1 + (file.content.take offset).count '\n' : Nat))
      = shownLine file.content offset := by
  have hcut := List.take_append_drop offset file.content
  have hline := lineContent_append file.path (file.content.take offset)
    (file.content.drop offset)
  rw [hcut] at hline
  rw [show file = ⟨file.path, file.content⟩ from rfl, hline, firstLine_eq,
    ← List.append_assoc, shownLine]
  split
  · exact Text.withoutTerminator_concat_newline _
  · rw [List.append_nil]

/-- As far as a line is shown, it is the text of the file from its beginning
on. -/
theorem shownLine_isPrefix (t : Text) (offset : Nat) :
    shownLine t offset <+: lastLine (t.take offset) ++ t.drop offset := by
  refine List.IsPrefix.trans (Text.withoutTerminator_isPrefix _) ?_
  rw [List.prefix_append_right_inj]
  exact List.takeWhile_prefix _

/-- No line is shown past the end of the text. -/
theorem le_length_of_le_shownEnd {t : Text} {start stop : Nat}
    (hlt : start < stop) (hend : stop ≤ shownEnd t start) : stop ≤ t.length := by
  have hcolumn := columnAfter_le_length (t.take start)
  have hshown := (shownLine_isPrefix t start).length_le
  rw [List.length_append, length_lastLine, List.length_drop] at hshown
  rw [List.length_take] at hcolumn
  rw [shownEnd] at hend
  omega

/-- A slice that begins and ends where its line is shown stands in that line,
as many characters from its beginning as the column says. -/
theorem exists_shownLine_eq {t : Text} {start stop : Nat} (hlt : start < stop)
    (hend : stop ≤ shownEnd t start) :
    ∃ rest, shownLine t start
      = lastLine (t.take start) ++ Text.slice t start stop ++ rest := by
  have hdrop : t.drop start = Text.slice t start stop ++ t.drop stop := by
    rw [← List.append_right_inj (t.take start), List.take_append_drop,
      ← List.append_assoc, Text.take_append_slice t (Nat.le_of_lt hlt),
      List.take_append_drop]
  have hslice := Text.length_slice t start stop
  have hcolumn := columnAfter_le_length (t.take start)
  rw [List.length_take] at hcolumn
  rw [shownEnd] at hend
  have hshown := shownLine_isPrefix t start
  rw [hdrop, ← List.append_assoc] at hshown
  obtain ⟨rest, hrest⟩ :=
    List.prefix_of_prefix_length_le (List.prefix_append _ _) hshown (by
      rw [List.length_append, length_lastLine]
      omega)
  exact ⟨rest, hrest.symm⟩

end SourceFile

/-! ## Reading the characters above carets -/

/-- The characters that stand above the carets of a line. -/
def aboveCarets (excerpt marker : Text) : List (Option Char) :=
  (marker.idxsOf '^').map (excerpt[·]?)

/-- The lines of a diagnostic below its header begin with an excerpt and a line
of spaces followed by so many carets, and the characters of the excerpt above
the carets spell a text. -/
def Underlines (body : List Text) (n : Nat) (t : Text) : Prop :=
  ∃ excerpt marker words, body = excerpt :: marker :: words
    ∧ (∃ margin, marker = List.replicate margin ' ' ++ List.replicate n '^')
    ∧ aboveCarets excerpt marker = t.map some

theorem idxsOf_replicate (n start : Nat) :
    (List.replicate n '^').idxsOf '^' start = List.range' start n := by
  induction n generalizing start with
  | zero => rfl
  | succ n ih =>
      rw [List.replicate_succ, List.idxsOf_cons, if_pos (by decide), ih,
        List.range'_succ]

theorem idxsOf_margin (margin : Nat) (t : Text) (start : Nat) :
    (List.replicate margin ' ' ++ t).idxsOf '^' start
      = t.idxsOf '^' (start + margin) := by
  induction margin generalizing start with
  | zero => rfl
  | succ margin ih =>
      rw [List.replicate_succ, List.cons_append, List.idxsOf_cons,
        if_neg (by decide), ih, Nat.add_right_comm, Nat.add_assoc]

/-- Carets behind a margin as wide as what comes before a text stand under that
text. -/
theorem aboveCarets_eq (before t rest : Text) :
    aboveCarets (before ++ t ++ rest)
        (List.replicate before.length ' ' ++ List.replicate t.length '^')
      = t.map some := by
  rw [aboveCarets, idxsOf_margin, idxsOf_replicate, Nat.zero_add]
  apply List.ext_getElem
  · simp
  · intro i h₁ h₂
    simp only [List.length_map, List.length_range'] at h₁
    simp [List.getElem?_append, h₁]

/-! ## The first two lines of a diagnostic -/

namespace Renderer

/-- The renderer that puts no colours in. -/
def uncolored (pageWidth : Int) : Renderer where
  pageWidth := pageWidth
  highlighter := .plain
  palette := { enabled := false }

/-- How many carets a position has. -/
def carets (p : Position) : Int :=
  if p.span.isSingleLine then caretCount p else 1

theorem uncolored_columnMarker (width : Int) (p : Position) (offset : Nat) :
    (uncolored width).columnMarker p offset
      = List.replicate (offset + p.span.startColumn) ' '
        ++ List.replicate (carets p).toNat '^' := by
  rw [columnMarker, carets]
  split
  · rfl
  · rfl

theorem uncolored_body (width : Int) (message : Message) (p : Position)
    (kind : Option Text) (pageWidth : Option Int) :
    ∃ words, ((uncolored width).render message (some p) kind pageWidth).body
      = (lineLabel p ++ Text.withoutTerminator p.lineContent)
        :: (List.replicate ((lineLabel p).length + p.span.startColumn) ' '
          ++ List.replicate (carets p).toNat '^')
        :: words := by
  rw [← uncolored_columnMarker width p (lineLabel p).length]
  exact ⟨_, rfl⟩

/-- The carets of a diagnostic stand under a slice that begins where its
position does and is as long as they are. -/
theorem underlines_slice {p : Position} {start stop : Nat}
    (hline : p.span.startLine
      = 1 + (p.site.source.content.take start).count '\n')
    (hcolumn : p.span.startColumn
      = SourceFile.columnAfter (p.site.source.content.take start))
    (hlt : start < stop)
    (hend : stop ≤ SourceFile.shownEnd p.site.source.content start)
    (hcarets : carets p = (stop - start : Nat)) (width : Int)
    (message : Message) (kind : Option Text) (pageWidth : Option Int) :
    Underlines ((uncolored width).render message (some p) kind pageWidth).body
      (stop - start) (Text.slice p.site.source.content start stop) := by
  obtain ⟨words, hbody⟩ := uncolored_body width message p kind pageWidth
  obtain ⟨rest, hshown⟩ := SourceFile.exists_shownLine_eq hlt hend
  have hstop := SourceFile.le_length_of_le_shownEnd hlt hend
  have hlen : (Text.slice p.site.source.content start stop).length
      = stop - start := by
    rw [Text.length_slice, Nat.min_eq_left hstop]
  rw [hcarets, Int.toNat_natCast, Position.lineContent, hline,
    SourceFile.withoutTerminator_lineContent, hshown, ← List.append_assoc,
    ← List.append_assoc] at hbody
  refine ⟨_, _, words, hbody, ⟨_, rfl⟩, ?_⟩
  rw [hcolumn, ← SourceFile.length_lastLine, ← List.length_append, ← hlen]
  exact aboveCarets_eq _ _ rest

/-- A position on one line has a caret for each of its characters. -/
theorem carets_of_single {p : Position} {n : Nat} (hn : 0 < n)
    (hlines : p.span.startLine = p.span.endLine)
    (hcolumns : p.span.endColumn = p.span.startColumn + n) : carets p = n := by
  have hsingle : p.span.isSingleLine = true := decide_eq_true hlines
  rw [carets, if_pos hsingle, caretCount, hcolumns]
  omega

/-- A position that goes on past its line has one caret. -/
theorem carets_of_lines {p : Position}
    (hlines : p.span.startLine < p.span.endLine) : carets p = 1 := by
  have hsingle : ¬ p.span.isSingleLine = true := by
    rw [Span.isSingleLine, decide_eq_true_eq]
    omega
  rw [carets, if_neg hsingle]

end Renderer

/-- Whatever the message and however wide the page, the uncoloured diagnostic
at the span between two offsets has so many carets, and they are under a text;
so has the one that is drawn, if it can be. -/
def UnderlinesSpan (file : SourceFile) (start stop n : Nat) (t : Text) : Prop :=
  ∃ span, file.span start (some (stop : Int)) = .ok span
    ∧ ∀ (message : Message) (width : Int) (kind : Option Text)
      (pageWidth : Option Int),
      let r := Renderer.uncolored width
      let position := some (Position.ofSite { source := file, span })
      Underlines (r.render message position kind pageWidth).body n t
        ∧ ∀ block, r.render? message position kind pageWidth = .ok block →
          Underlines block.body n t

theorem underlinesSpan_slice {file : SourceFile} {span : Span}
    {start stop last : Nat}
    (hspan : file.span start (some (stop : Int)) = .ok span)
    (hline : span.startLine = 1 + (file.content.take start).count '\n')
    (hcolumn : span.startColumn
      = SourceFile.columnAfter (file.content.take start))
    (hlt : start < last) (hend : last ≤ SourceFile.shownEnd file.content start)
    (hcarets : Renderer.carets (Position.ofSite { source := file, span })
      = (last - start : Nat)) :
    UnderlinesSpan file start stop (last - start)
      (Text.slice file.content start last) := by
  refine ⟨span, hspan, fun message width kind pageWidth => ?_⟩
  have h := Renderer.underlines_slice
    (p := Position.ofSite { source := file, span }) hline hcolumn hlt hend hcarets
    width message kind pageWidth
  refine ⟨h, fun block hblock => ?_⟩
  rw [Renderer.eq_render_of_render? hblock]
  exact h

/-- The characters above the carets of an uncoloured diagnostic are the text it
is about. If that is on one line and shown to its end, there is a caret for each
of its characters; if it goes on past its line and its first character is shown,
there is one caret, under that character. -/
theorem carets_underline_span (file : SourceFile) {start stop : Nat}
    (hlt : start < stop) :
    ('\n' ∉ Text.slice file.content start stop →
      stop ≤ SourceFile.shownEnd file.content start →
      UnderlinesSpan file start stop (stop - start)
        (Text.slice file.content start stop))
    ∧ ('\n' ∈ Text.slice file.content start stop →
      stop ≤ file.content.length →
      start < SourceFile.shownEnd file.content start →
      ∃ c, file.content[start]? = some c
        ∧ UnderlinesSpan file start stop 1 [c]) := by
  have hcut := Text.take_append_slice file.content (Nat.le_of_lt hlt)
  refine ⟨fun hnone hend => ?_, fun hsome hstop hend => ?_⟩
  · have hstop := SourceFile.le_length_of_le_shownEnd hlt hend
    obtain ⟨span, hspan, hline, hcolumn, hline', hcolumn'⟩ :=
      SourceFile.span_eq_ok file (Nat.le_of_lt hlt) hstop
    have hlines : span.startLine = span.endLine := by
      rw [hline, hline', ← hcut, List.count_append,
        List.count_eq_zero_of_not_mem hnone]
      rfl
    have hcolumns : span.endColumn = span.startColumn + (stop - start) := by
      rw [hcolumn', hcolumn, ← hcut, SourceFile.columnAfter_append hnone,
        Text.length_slice, Nat.min_eq_left hstop]
    exact underlinesSpan_slice hspan hline hcolumn hlt hend
      (Renderer.carets_of_single (Nat.sub_pos_of_lt hlt) hlines hcolumns)
  · obtain ⟨span, hspan, hline, hcolumn, hline', -⟩ :=
      SourceFile.span_eq_ok file (Nat.le_of_lt hlt) hstop
    have hlines : span.startLine < span.endLine := by
      have hpos := List.count_pos_iff.mpr hsome
      rw [hline, hline', ← hcut, List.count_append]
      omega
    have hstart : start < file.content.length := by omega
    have hone : start + 1 - start = 1 := Nat.add_sub_cancel_left start 1
    have hcarets : Renderer.carets (Position.ofSite { source := file, span })
        = (start + 1 - start : Nat) := by
      rw [hone]
      exact Renderer.carets_of_lines hlines
    have hspans := underlinesSpan_slice hspan hline hcolumn
      (Nat.lt_add_one start) hend hcarets
    rw [Text.slice_succ hstart, hone] at hspans
    exact ⟨_, List.getElem?_eq_getElem hstart, hspans⟩

/-- The tenth line has a wider number than those before it, and ends in a
carriage return that is not shown: its first two characters, and the stretch
from the second of them on into the line below. -/
theorem carets_underline_span_tenth_line :
    let file : SourceFile :=
      { path := Text.ofString "a"
        content := Text.ofString "\n\n\n\n\n\n\n\n\nxy\r\nz" }
    UnderlinesSpan file 9 11 2 ['x', 'y']
      ∧ ∃ c, file.content[10]? = some c ∧ UnderlinesSpan file 10 14 1 [c] := by
  intro file
  exact ⟨(carets_underline_span file (by decide)).1 (by decide) (by decide),
    (carets_underline_span file (by decide)).2 (by decide) (by decide)
      (by decide)⟩

end DiagnosticConsole
