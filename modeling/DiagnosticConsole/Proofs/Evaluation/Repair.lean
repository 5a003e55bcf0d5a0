import DiagnosticConsole.Proofs.Evaluation.Check
import Mathlib.Data.Prod.Lex

/-!
# The place of a syntax fault

Besides its line, the host names up to three numbers for a syntax fault, and each
of them may be missing, out of range or at odds with the others. None of this is
an obstacle to a span. A column that is missing or before the first has another
one stand in for it, so the fault has a start and an end; and the end is taken as
it is unless it lies before the start. In that case it is moved down to the line
of the start, and if it still lies before the start, it is the start
(`start_stop_of_syntaxSpan`).
-/

namespace DiagnosticConsole

/-- Where a span starts. -/
def Span.start (span : Span) : Int × Int := (span.startLine, span.startColumn)

/-- Where a span ends. -/
def Span.stop (span : Span) : Int × Int := (span.endLine, span.endColumn)

namespace SyntaxFault

/-- The start of a fault on a line. Its offset is counted from one; where that is
missing or before the first, the fault starts with the line. -/
def start (fault : SyntaxFault) (line : Int) : Int × Int :=
  (line, max (fault.offset.getD 1) 1 - 1)

/-- The end that a fault on a line names. Without a line it is on that of the start,
and without an offset that counts from one it is a column behind the start. -/
def namedStop (fault : SyntaxFault) (line : Int) : Int × Int :=
  (fault.endLine.getD line,
    match fault.endOffset.filter (0 < ·) with
    | some offset => offset - 1
    | none => (fault.start line).2 + 1)

theorem start_eq (fault : SyntaxFault) (line : Int) :
    fault.start line = (line, Evaluation.startColumn fault) := by
  rw [start, Evaluation.startColumn]
  congr 1
  omega

theorem namedStop_eq (fault : SyntaxFault) (line : Int) :
    fault.namedStop line = (fault.endLine.getD line, Evaluation.endColumn fault) := by
  rw [namedStop, Evaluation.endColumn, start_eq]
  cases fault.endOffset with
  | none => rfl
  | some offset =>
      by_cases hpos : offset > 0
      · simp [Option.filter, hpos]
      · simp [Option.filter, hpos]

end SyntaxFault

namespace Evaluation

variable {fault : SyntaxFault} {line : Int}

theorem syntaxSpan_eq_none_iff : syntaxSpan fault = .ok none ↔ fault.line = none := by
  constructor
  · intro h
    cases hline : fault.line with
    | none => rfl
    | some line =>
        rw [syntaxSpan_of_line hline] at h
        generalize Span.between line _ _ _ = span at h
        cases span with
        | ok span => cases h
        | error misplaced => cases h
  · intro h
    rw [syntaxSpan, h]

/-- A fault from the first line on has a span, from its start to the end it names as
far as that end can be kept. -/
theorem start_stop_of_syntaxSpan (hline : fault.line = some line)
    (hfirst : 1 ≤ line) :
    ∃ span, syntaxSpan fault = .ok (some span) ∧ span.start = fault.start line
      ∧ span.stop
        = (max (fault.namedStop line).1 line,
            if (fault.namedStop line).1 ≤ line then
              max (fault.namedStop line).2 (fault.start line).2
            else (fault.namedStop line).2) := by
  obtain ⟨span, hspan, hstartLine, hstartColumn, hendLine, hendColumn⟩ :=
    syntaxSpan_eq_ok hline hfirst
  have hlines : max (fault.endLine.getD line) line = line
      ↔ fault.endLine.getD line ≤ line := by omega
  rw [fault.start_eq, fault.namedStop_eq]
  refine ⟨span, hspan, Prod.ext hstartLine hstartColumn, Prod.ext hendLine ?_⟩
  simp only [hlines] at hendColumn
  exact hendColumn

/-- A syntax fault on a line from the first on has a place in any source, and is
reported there. It starts where the host says, but not before its line, and ends
where the host says, but not before its start. An end before the start is moved down
to the line of the start, and if it is still before the start, it is the start.
There is no place just if there is no line. -/
theorem syntaxSpan_repairs_end (fault : SyntaxFault) :
    (syntaxSpan fault = .ok none ↔ fault.line = none)
      ∧ ∀ line, fault.line = some line → 1 ≤ line →
        ∃ span, syntaxSpan fault = .ok (some span)
          ∧ (∀ source : SourceFile, (CompileFault.invalid fault).position? source
            = some (Position.ofSite { source, span }))
          ∧ (∀ (r : Reporter) (source : SourceFile),
            reportCompileFault r source (.invalid fault)
              = reportMessage r (CompileFault.invalid fault).message
                (some (Position.ofSite { source, span })))
          ∧ span.start = fault.start line
          ∧ (toLex (fault.start line) ≤ toLex (fault.namedStop line) →
            span.stop = fault.namedStop line)
          ∧ ((fault.namedStop line).1 < line → span.stop.1 = line
            ∧ ((fault.start line).2 ≤ (fault.namedStop line).2 →
              span.stop.2 = (fault.namedStop line).2))
          ∧ ((fault.namedStop line).1 ≤ line →
            (fault.namedStop line).2 < (fault.start line).2 →
            span.stop = fault.start line) := by
  refine ⟨syntaxSpan_eq_none_iff, fun line hline hfirst => ?_⟩
  obtain ⟨span, hspan, hstart, hstop⟩ := start_stop_of_syntaxSpan hline hfirst
  have hplace : ∀ source : SourceFile, (CompileFault.invalid fault).position? source
      = some (Position.ofSite { source, span }) := by
    intro source
    rw [CompileFault.position?, hspan]
  have htell : (CompileFault.invalid fault).Tellable := by
    intro line' hline'
    obtain rfl := Option.some.inj (hline.symm.trans hline')
    exact hfirst
  have hstartLine : (fault.start line).1 = line := rfl
  refine ⟨span, hspan, hplace, fun r source => ?_, hstart, fun hle => ?_,
    fun hearlier => ⟨?_, fun hcolumns => ?_⟩, fun hlines hcolumns => ?_⟩
  · rw [reportCompileFault_of_tellable r source htell, hplace]
  · rw [Prod.Lex.toLex_le_toLex, hstartLine] at hle
    rw [hstop]
    refine Prod.ext (by dsimp only; omega) ?_
    dsimp only
    split <;> omega
  · rw [hstop]
    dsimp only
    omega
  · rw [hstop]
    dsimp only
    rw [if_pos (Int.le_of_lt hearlier)]
    omega
  · rw [hstop]
    refine Prod.ext (by dsimp only; omega) ?_
    dsimp only
    rw [if_pos hlines]
    omega

/-- Nothing in the host's numbers but the line can be taken as it is. -/
example :
    syntaxSpan
        { line := some 3, offset := some (-2), endLine := some 1
          endOffset := some 0 }
      = .ok (some ⟨3, 0, 3, 1, by decide, by decide, by decide⟩) := rfl

end Evaluation

end DiagnosticConsole
