import DiagnosticConsole.Text.Basic

/-!
# Blank characters

White space is the ASCII blanks with the four information separators, the
next-line control, and the space and line separators beyond ASCII.
-/

namespace DiagnosticConsole.Text

/-- White space. -/
def isBlank (c : Char) : Bool :=
  let n := c.toNat
  (0x09 ≤ n && n ≤ 0x0D) || (0x1C ≤ n && n ≤ 0x20) || n == 0x85 || n == 0xA0 ||
    n == 0x1680 || (0x2000 ≤ n && n ≤ 0x200A) || n == 0x2028 || n == 0x2029 ||
    n == 0x202F || n == 0x205F || n == 0x3000

/-- The text without the blanks at its start. -/
def trimStart (t : Text) : Text := t.dropWhile isBlank

/-- The text without the blanks at its two ends. -/
def trim (t : Text) : Text := dropWhileEnd isBlank (trimStart t)

/-- A text that is not empty and all blank. -/
def isBlankRun (t : Text) : Bool := !t.isEmpty && t.all isBlank

end DiagnosticConsole.Text
