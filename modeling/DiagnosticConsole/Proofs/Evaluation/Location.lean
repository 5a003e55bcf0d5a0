import DiagnosticConsole.Evaluation.Location
import DiagnosticConsole.Proofs.Source.Lines

/-!
# Which faults have a place

What the host says of a place may be out of order in every way, and only one of
them is fatal: a line before the first. Ends are moved up to their starts and
columns before the first are taken for the first, so from the first line on
there is always a span, and it begins on the line that the host named.

A frame has a place only if it is the innermost one whose code has a source;
the frames further in, of code without a source, do not count.
-/

namespace DiagnosticConsole.Evaluation

/-! ## Syntax faults -/

/-- The column at which a syntax fault begins. -/
def startColumn (fault : SyntaxFault) : Int := max (fault.offset.getD 1 - 1) 0

/-- The column at which a syntax fault ends, where its end has not yet been
moved up to its start. -/
def endColumn (fault : SyntaxFault) : Int :=
  match fault.endOffset with
  | some offset => if offset > 0 then offset - 1 else startColumn fault + 1
  | none => startColumn fault + 1

theorem startColumn_nonneg (fault : SyntaxFault) : 0 ≤ startColumn fault := by
  rw [startColumn]
  omega

theorem endColumn_nonneg (fault : SyntaxFault) : 0 ≤ endColumn fault := by
  have hstart := startColumn_nonneg fault
  rw [endColumn]
  split
  · split <;> omega
  · omega

theorem syntaxSpan_of_line {fault : SyntaxFault} {line : Int}
    (hline : fault.line = some line) :
    syntaxSpan fault
      = (Span.between line (startColumn fault)
          (max (fault.endLine.getD line) line)
          (if max (fault.endLine.getD line) line = line then
            max (endColumn fault) (startColumn fault)
          else endColumn fault)).map some := by
  rw [syntaxSpan, hline]
  rfl

/-- A syntax fault from the first line on has a span, from where it begins to its
end, or to where it begins if its end lies before that. -/
theorem syntaxSpan_eq_ok {fault : SyntaxFault} {line : Int}
    (hline : fault.line = some line) (hfirst : 1 ≤ line) :
    ∃ span, syntaxSpan fault = .ok (some span)
      ∧ (span.startLine : Int) = line
      ∧ (span.startColumn : Int) = startColumn fault
      ∧ (span.endLine : Int) = max (fault.endLine.getD line) line
      ∧ (span.endColumn : Int)
        = if max (fault.endLine.getD line) line = line then
            max (endColumn fault) (startColumn fault)
          else endColumn fault := by
  have hstart := startColumn_nonneg fault
  have hend := endColumn_nonneg fault
  obtain ⟨span, hspan, hplace⟩ :=
    Span.between_eq_ok line (startColumn fault)
      (max (fault.endLine.getD line) line)
      (if max (fault.endLine.getD line) line = line then
        max (endColumn fault) (startColumn fault)
      else endColumn fault)
      hfirst hstart (by split <;> omega) (by omega) (by split <;> omega)
  refine ⟨span, ?_, hplace⟩
  rw [syntaxSpan_of_line hline, hspan]
  rfl

/-- A syntax fault before the first line has no span. -/
theorem syntaxSpan_eq_error {fault : SyntaxFault} {line : Int}
    (hline : fault.line = some line) (hfirst : line < 1) :
    syntaxSpan fault = .error .beforeFirst := by
  rw [syntaxSpan_of_line hline, Span.between, dif_pos (Or.inl hfirst)]
  rfl

theorem syntaxSpan_eq_error_iff {fault : SyntaxFault} {misplaced : SpanFault} :
    syntaxSpan fault = .error misplaced
      ↔ misplaced = .beforeFirst ∧ ∃ line, fault.line = some line ∧ line < 1 := by
  constructor
  · intro h
    cases hline : fault.line with
    | none =>
        rw [syntaxSpan, hline] at h
        cases h
    | some line =>
        by_cases hfirst : line < 1
        · rw [syntaxSpan_eq_error hline hfirst] at h
          exact ⟨(Except.error.inj h).symm, line, rfl, hfirst⟩
        · obtain ⟨span, hspan, -⟩ :=
            syntaxSpan_eq_ok hline (Int.not_lt.mp hfirst)
          rw [hspan] at h
          cases h
  · rintro ⟨rfl, line, hline, hfirst⟩
    exact syntaxSpan_eq_error hline hfirst

/-! ## Frames -/

theorem frameBounds_nonneg (source : SourceFile) (frame : Frame) (line : Int) :
    0 ≤ (frameBounds source frame line).1
      ∧ 0 ≤ (frameBounds source frame line).2.2 := by
  have htrim : (Text.trimStart
        (Text.withoutTerminator (source.lineContent line))).length
      ≤ (Text.withoutTerminator (source.lineContent line)).length :=
    (List.dropWhile_sublist _).length_le
  rw [frameBounds]
  split
  · split
    · exact ⟨Int.natCast_nonneg _, Int.natCast_nonneg _⟩
    · exact ⟨Int.sub_nonneg_of_le (by omega), Int.natCast_nonneg _⟩
  · exact ⟨Int.sub_nonneg_of_le (by omega), Int.natCast_nonneg _⟩

/-- A frame on a line that its source has has a span, which goes from its first
bound to its last, or is empty where the last lies before the first. -/
theorem frameSpan_of_line {source : SourceFile} {frame : Frame} {line : Int}
    (hline : frame.line = some line) (hfirst : 1 ≤ line)
    (hlast : line ≤ source.lineCount) :
    ∃ span, frameSpan source frame = .ok (some span)
      ∧ (span.startLine : Int) = line
      ∧ (span.startColumn : Int) = (frameBounds source frame line).1
      ∧ ((span.endLine : Int), (span.endColumn : Int))
        = (if (frameBounds source frame line).2.1 < line
            ∨ (frameBounds source frame line).2.1 = line
              ∧ (frameBounds source frame line).2.2
                < (frameBounds source frame line).1 then
            (line, (frameBounds source frame line).1)
          else (frameBounds source frame line).2) := by
  have hbounds := frameBounds_nonneg source frame line
  rw [frameSpan, hline]
  simp only []
  rw [if_neg (by omega)]
  rcases hcases : frameBounds source frame line with ⟨first, endLine, last⟩
  rw [hcases] at hbounds
  simp only [] at hbounds ⊢
  split
  · obtain ⟨span, hspan, hspanLine, hspanColumn, hspanEnd, hspanLast⟩ :=
      Span.between_eq_ok line first line first hfirst hbounds.1 hbounds.1
        (by omega) (by omega)
    exact ⟨span, by rw [hspan]; rfl, hspanLine, hspanColumn,
      Prod.ext hspanEnd hspanLast⟩
  · next hclamp =>
      rw [not_or, not_and] at hclamp
      obtain ⟨span, hspan, hspanLine, hspanColumn, hspanEnd, hspanLast⟩ :=
        Span.between_eq_ok line first endLine last hfirst hbounds.1 hbounds.2
          (by omega) (by omega)
      exact ⟨span, by rw [hspan]; rfl, hspanLine, hspanColumn,
        Prod.ext hspanEnd hspanLast⟩

/-- A frame on a line that its source has has a span, which begins on that
line. -/
theorem frameSpan_eq_some {source : SourceFile} {frame : Frame} {line : Int}
    (hline : frame.line = some line) (hfirst : 1 ≤ line)
    (hlast : line ≤ source.lineCount) :
    ∃ span, frameSpan source frame = .ok (some span)
      ∧ (span.startLine : Int) = line := by
  obtain ⟨span, hspan, hspanLine, -⟩ := frameSpan_of_line hline hfirst hlast
  exact ⟨span, hspan, hspanLine⟩

/-- A frame has no span if it names no line or one past the end. -/
theorem frameSpan_eq_none {source : SourceFile} {frame : Frame}
    (h : ∀ line, frame.line = some line → (source.lineCount : Int) < line) :
    frameSpan source frame = .ok none := by
  rw [frameSpan]
  cases hline : frame.line with
  | none => rfl
  | some line =>
      simp only []
      rw [if_pos (h line hline)]

/-- A frame before the first line has no span. -/
theorem frameSpan_eq_error {source : SourceFile} {frame : Frame} {line : Int}
    (hline : frame.line = some line) (hfirst : line < 1) :
    frameSpan source frame = .error .beforeFirst := by
  rw [frameSpan, hline]
  simp only []
  rw [if_neg (by omega)]
  rcases hcases : frameBounds source frame line with ⟨first, endLine, last⟩
  simp only []
  split
  · rw [Span.between, dif_pos (Or.inl hfirst)]
    rfl
  · rw [Span.between, dif_pos (Or.inl hfirst)]
    rfl

theorem frameSpan_eq_error_iff {source : SourceFile} {frame : Frame}
    {misplaced : SpanFault} :
    frameSpan source frame = .error misplaced
      ↔ misplaced = .beforeFirst ∧ ∃ line, frame.line = some line ∧ line < 1 := by
  constructor
  · intro h
    cases hline : frame.line with
    | none =>
        rw [frameSpan, hline] at h
        cases h
    | some line =>
        by_cases hfirst : line < 1
        · rw [frameSpan_eq_error hline hfirst] at h
          exact ⟨(Except.error.inj h).symm, line, rfl, hfirst⟩
        · by_cases hlast : line ≤ source.lineCount
          · obtain ⟨span, hspan, -⟩ :=
              frameSpan_eq_some hline (Int.not_lt.mp hfirst) hlast
            rw [hspan] at h
            cases h
          · rw [frameSpan, hline] at h
            simp only [] at h
            rw [if_pos (Int.not_le.mp hlast)] at h
            cases h
  · rintro ⟨rfl, line, hline, hfirst⟩
    exact frameSpan_eq_error hline hfirst

/-! ## The innermost frame -/

/-- The innermost frame with a source is the one behind which there are only
frames without. -/
theorem innermost_eq_some {sources : Table SourceFile} {frame : Frame}
    {source : SourceFile} (outer : List Frame) {inner : List Frame}
    (hsource : Table.get? sources frame.filename = some source)
    (hinner : ∀ f ∈ inner, Table.get? sources f.filename = none) :
    innermost sources (outer ++ frame :: inner) = some (frame, source) := by
  have hnone : inner.reverse.findSome? (fun f =>
      (Table.get? sources f.filename).map fun source => (f, source)) = none := by
    rw [List.findSome?_eq_none_iff]
    intro f hf
    rw [hinner f (List.mem_reverse.mp hf)]
    rfl
  rw [innermost, List.reverse_append, List.reverse_cons, List.append_assoc,
    List.findSome?_append, hnone, Option.none_or, List.singleton_append,
    List.findSome?_cons, hsource]
  rfl

/-- An exception is shown in the innermost source that it came through, on the
line that the frame names. -/
theorem tracebackSite_eq_some {sources : Table SourceFile} {frame : Frame}
    {source : SourceFile} {line : Int} (outer : List Frame) {inner : List Frame}
    (hsource : Table.get? sources frame.filename = some source)
    (hinner : ∀ f ∈ inner, Table.get? sources f.filename = none)
    (hline : frame.line = some line) (hfirst : 1 ≤ line)
    (hlast : line ≤ source.lineCount) :
    ∃ span, tracebackSite sources (outer ++ frame :: inner)
        = .ok (some { source, span })
      ∧ (span.startLine : Int) = line := by
  obtain ⟨span, hspan, hspanLine⟩ := frameSpan_eq_some hline hfirst hlast
  refine ⟨span, ?_, hspanLine⟩
  rw [tracebackSite, innermost_eq_some outer hsource hinner]
  simp only []
  rw [hspan]
  rfl

theorem tracebackSite_eq_error_iff {sources : Table SourceFile}
    {frames : List Frame} {misplaced : SpanFault} :
    tracebackSite sources frames = .error misplaced
      ↔ misplaced = .beforeFirst ∧ ∃ frame source line,
        innermost sources frames = some (frame, source)
          ∧ frame.line = some line ∧ line < 1 := by
  constructor
  · intro h
    rw [tracebackSite] at h
    split at h
    · cases h
    · next frame source hinnermost =>
        cases hspan : frameSpan source frame with
        | ok span =>
            rw [hspan] at h
            cases h
        | error fault =>
            rw [hspan] at h
            cases h
            obtain ⟨hfault, line, hline⟩ := frameSpan_eq_error_iff.mp hspan
            exact ⟨hfault, frame, source, line, hinnermost, hline⟩
  · rintro ⟨rfl, frame, source, line, hinnermost, hline, hfirst⟩
    rw [tracebackSite, hinnermost]
    simp only []
    rw [frameSpan_eq_error hline hfirst]
    rfl

end DiagnosticConsole.Evaluation
