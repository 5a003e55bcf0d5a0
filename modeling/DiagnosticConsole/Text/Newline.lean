import DiagnosticConsole.Text.Basic

/-!
# One spelling of the newline

Text from files and text that is about to be coloured has every carriage
return, with or without a line feed behind it, replaced by a line feed.
-/

namespace DiagnosticConsole.Text

/-- The text with each of the three newline spellings as a line feed. -/
def normaliseNewlines : Text → Text
  | [] => []
  | '\r' :: '\n' :: rest => '\n' :: normaliseNewlines rest
  | c :: rest => (if c = '\r' then '\n' else c) :: normaliseNewlines rest

/-- The text without one byte order mark at its start. -/
def withoutMark : Text → Text
  | c :: rest => if c = '\uFEFF' then rest else c :: rest
  | [] => []

end DiagnosticConsole.Text
