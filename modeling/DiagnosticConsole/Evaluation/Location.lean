import DiagnosticConsole.Host.Basic
import DiagnosticConsole.Source.Position
import DiagnosticConsole.Text.Blank
import DiagnosticConsole.Text.Utf8

/-!
# Where the host found a fault

The host says where in its own terms, which are not always in order: offsets
from one or missing, ends before starts, columns in bytes, lines of code that no
source has. These functions find the span that comes nearest.
-/

namespace DiagnosticConsole.Evaluation

/-- The span of a syntax fault, which has one if it has a line. Its end is moved
up to its start if it lies before it. -/
def syntaxSpan (fault : SyntaxFault) : Except SpanFault (Option Span) :=
  match fault.line with
  | none => .ok none
  | some startLine =>
      let startColumn := max (fault.offset.getD 1 - 1) 0
      let endLine := max (fault.endLine.getD startLine) startLine
      let endColumn :=
        match fault.endOffset with
        | some offset => if offset > 0 then offset - 1 else startColumn + 1
        | none => startColumn + 1
      let endColumn :=
        if endLine = startLine then max endColumn startColumn else endColumn
      (Span.between startLine startColumn endLine endColumn).map some

/-- The number of characters in front of a byte of a line, one that is cut
included. -/
def charColumn (line : Text) (byteOffset : Int) : Nat :=
  let bytes := Text.Utf8.encode line
  (Text.Utf8.decodeLenient
    (bytes.take (Text.place bytes.length byteOffset))).length

/-- The innermost frame whose code has a source, with that source. -/
def innermost (sources : Table SourceFile) (frames : List Frame) :
    Option (Frame × SourceFile) :=
  frames.reverse.findSome? fun frame =>
    (Table.get? sources frame.filename).map fun source => (frame, source)

/-- The end and columns of a frame in its source: as given, if both columns are
and the end is a line of the source; else all of the line but its margin. -/
def frameBounds (source : SourceFile) (frame : Frame) (line : Int) :
    Int × Int × Int :=
  let endLine := frame.endLine.getD line
  let whole :=
    let content := Text.withoutTerminator (source.lineContent line)
    ((content.length - (Text.trimStart content).length : Int), line,
      (content.length : Int))
  match frame.column, frame.endColumn with
  | some column, some endColumn =>
      if endLine ≤ source.lineCount then
        (charColumn (source.lineContent line) column, endLine,
          charColumn (source.lineContent endLine) endColumn)
      else whole
  | _, _ => whole

/-- The span of a frame in its source, if the source has its line. -/
def frameSpan (source : SourceFile) (frame : Frame) :
    Except SpanFault (Option Span) :=
  match frame.line with
  | none => .ok none
  | some line =>
      if line > source.lineCount then .ok none
      else
        let (startColumn, endLine, endColumn) := frameBounds source frame line
        let (endLine, endColumn) :=
          if endLine < line ∨ (endLine = line ∧ endColumn < startColumn) then
            (line, startColumn)
          else (endLine, endColumn)
        (Span.between line startColumn endLine endColumn).map some

/-- The site of the innermost frame whose code came from one of the sources. -/
def tracebackSite (sources : Table SourceFile) (frames : List Frame) :
    Except SpanFault (Option Site) :=
  match innermost sources frames with
  | none => .ok none
  | some (frame, source) =>
      (frameSpan source frame).map fun span =>
        span.map fun span => { source, span }

end DiagnosticConsole.Evaluation
