import DiagnosticConsole.Source.File

/-!
# Spans

A span goes from a line and column to another that is not before it. Lines are
counted from one and columns from zero.
-/

namespace DiagnosticConsole

/-- A stretch of source text. -/
structure Span where
  startLine : Nat
  startColumn : Nat
  endLine : Nat
  endColumn : Nat
  one_le_startLine : 1 ≤ startLine
  startLine_le_endLine : startLine ≤ endLine
  startColumn_le_endColumn : startLine = endLine → startColumn ≤ endColumn
  deriving DecidableEq, Repr

namespace Span

/-- The span between two places, if they are in order and in range. -/
def between (startLine startColumn endLine endColumn : Int) :
    Except SpanFault Span :=
  if first : startLine < 1 ∨ startColumn < 0 ∨ endColumn < 0 then
    .error .beforeFirst
  else if reversed : endLine < startLine then .error .linesReversed
  else if crossed : startLine = endLine ∧ endColumn < startColumn then
    .error .columnsReversed
  else
    .ok
      { startLine := startLine.toNat
        startColumn := startColumn.toNat
        endLine := endLine.toNat
        endColumn := endColumn.toNat
        one_le_startLine := by omega
        startLine_le_endLine := by omega
        startColumn_le_endColumn := by omega }

/-- A span that stays on one line. -/
def isSingleLine (span : Span) : Bool := span.startLine = span.endLine

end Span

/-- The span from an offset up to another, or the empty one at an offset. -/
def SourceFile.span (file : SourceFile) (start : Int) (stop : Option Int) :
    Except SpanFault Span :=
  match file.lineAndColumn start with
  | .error fault => .error fault
  | .ok (startLine, startColumn) =>
      match file.lineAndColumn (stop.getD start) with
      | .error fault => .error fault
      | .ok (endLine, endColumn) =>
          Span.between startLine startColumn endLine endColumn

end DiagnosticConsole
