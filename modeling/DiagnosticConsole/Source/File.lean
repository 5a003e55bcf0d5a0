import DiagnosticConsole.Text.Basic

/-!
# Source files

A source file is a named text, which can be looked at in two ways: as lines,
counted from one, and as offsets. A line keeps the line feed that ends it, so
the lines put together are the text again, and the last line, which may be
empty, has none.
-/

namespace DiagnosticConsole

/-- A named piece of source text. -/
structure SourceFile where
  path : Text
  content : Text
  deriving DecidableEq, Repr

/-- Why there is no span between two places. -/
inductive SpanFault where
  /-- An offset before the start or past the end of a file. -/
  | outside (offset : Int) (path : Text)
  /-- A line before the first or a column before the first. -/
  | beforeFirst
  | linesReversed
  | columnsReversed
  deriving DecidableEq, Repr

/-- The wording of a span fault. -/
def SpanFault.message : SpanFault → Text
  | .outside offset path =>
      Text.ofString "Offset " ++ Text.ofInt offset
        ++ Text.ofString " outside of " ++ path
  | .beforeFirst =>
      Text.ofString "SourcePosition lines start at 1 and columns at 0"
  | .linesReversed =>
      Text.ofString
        "SourcePosition invariant violated: start_line > end_line"
  | .columnsReversed =>
      Text.ofString
        "SourcePosition invariant violated: start_column > end_column"

namespace SourceFile

/-- The lines of a text, each with the line feed that ends it. -/
def linesOf : Text → List Text
  | [] => [[]]
  | c :: rest =>
      if c = '\n' then [c] :: linesOf rest
      else
        match linesOf rest with
        | [] => [[c]]
        | line :: more => (c :: line) :: more

/-- The lines of a file. -/
def lines (file : SourceFile) : List Text := linesOf file.content

/-- The number of lines of a file. -/
def lineCount (file : SourceFile) : Nat := file.lines.length

/-- A line with its line feed; empty where the file has no such line. -/
def lineContent (file : SourceFile) (line : Int) : Text :=
  if line < 1 then [] else file.lines.getD (line - 1).toNat []

/-- The number of characters since the last line feed of a text. -/
def columnAfter (t : Text) : Nat :=
  (t.reverse.takeWhile (· != '\n')).length

/-- The line and column of an offset: the line feeds before it are the lines it
has passed. -/
def lineAndColumn (file : SourceFile) (offset : Int) :
    Except SpanFault (Nat × Nat) :=
  if offset < 0 ∨ (file.content.length : Int) < offset then
    .error (.outside offset file.path)
  else
    let earlier := file.content.take offset.toNat
    .ok (1 + earlier.count '\n', columnAfter earlier)

end SourceFile

end DiagnosticConsole
