import DiagnosticConsole.Text.Basic

/-!
# Lines of a text

Besides the line feed, a text is broken by the carriage return, the pair of
both, the vertical tab, the form feed, the separators of files, groups and
records, the next-line control and the line and paragraph separators. A break
ends a line, so a text that ends in one has no empty line after it.
-/

namespace DiagnosticConsole.Text

/-- Characters that end a line on their own. -/
def isLineBreak (c : Char) : Bool :=
  let n := c.toNat
  (0x0A ≤ n && n ≤ 0x0D) || (0x1C ≤ n && n ≤ 0x1E) || n == 0x85 ||
    n == 0x2028 || n == 0x2029

/-- A line and the break that ends it, which is empty on a last line without
one. -/
structure Line where
  content : Text
  terminator : Text
  deriving DecidableEq, Repr

/-- The line with its break. -/
def Line.whole (line : Line) : Text := line.content ++ line.terminator

/-- The lines of a text with their breaks. -/
def lines : Text → List Line
  | [] => []
  | '\r' :: '\n' :: rest => ⟨[], ['\r', '\n']⟩ :: lines rest
  | c :: rest =>
      if isLineBreak c then ⟨[], [c]⟩ :: lines rest
      else
        match lines rest with
        | [] => [⟨[c], []⟩]
        | line :: more => ⟨c :: line.content, line.terminator⟩ :: more

/-- The lines of a text without their breaks. -/
def lineContents (t : Text) : List Text := (lines t).map Line.content

end DiagnosticConsole.Text
