import DiagnosticConsole.Text.Basic
import DiagnosticConsole.Text.Printable

/-!
# Quoted texts

Names and paths inside of messages are quoted: in single quotes, unless the
text has a single quote and no double one. The backslash, the quote in use and
the three common controls are escaped by a backslash; any other character that
has no mark of its own is written by its code point.
-/

namespace DiagnosticConsole.Text

/-- The quote a text is written in. -/
def quoteMark (t : Text) : Char :=
  if t.contains '\x27' && !t.contains '"' then '"' else '\x27'

/-- A character by its code point, in the shortest of the three forms. -/
def codePointEscape (c : Char) : Text :=
  let n := c.toNat
  if n ≤ 0xFF then ofString "\\x" ++ hex 2 n
  else if n ≤ 0xFFFF then ofString "\\u" ++ hex 4 n
  else ofString "\\U" ++ hex 8 n

/-- A character inside of quotes. -/
def quotedChar (mark c : Char) : Text :=
  if c = '\\' || c = mark then ['\\', c]
  else if c = '\n' then ofString "\\n"
  else if c = '\r' then ofString "\\r"
  else if c = '\t' then ofString "\\t"
  else if isPrintable c then [c]
  else codePointEscape c

/-- A text in quotes. -/
def quoted (t : Text) : Text :=
  let mark := quoteMark t
  mark :: t.flatMap (quotedChar mark) ++ [mark]

end DiagnosticConsole.Text
