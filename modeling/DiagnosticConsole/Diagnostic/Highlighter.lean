import DiagnosticConsole.Text.Basic

/-!
# Highlighters

A highlighter puts colours into source text. The plain one, which does nothing,
is told apart from every other.
-/

namespace DiagnosticConsole

/-- What colours source text. -/
inductive Highlighter where
  | plain
  | painting (paint : Text → Text)

namespace Highlighter

/-- The coloured text. -/
def apply : Highlighter → Text → Text
  | plain, t => t
  | painting paint, t => paint t

/-- Tests for the highlighter that does nothing. -/
def isPlain : Highlighter → Bool
  | plain => true
  | painting _ => false

end Highlighter

end DiagnosticConsole
