/-!
# Ranges of code points

A property of characters is given by the code points that have it, as
inclusive ranges in increasing order. The search stops at the first range that
begins past the code point.
-/

namespace DiagnosticConsole.Text

/-- Inclusive ranges of code points, in increasing order. -/
abbrev CodeRanges := List (Nat × Nat)

/-- Tests whether a code point lies in one of the ranges. -/
def CodeRanges.contains : CodeRanges → Nat → Bool
  | [], _ => false
  | (first, last) :: rest, n =>
      if n < first then false
      else if n ≤ last then true
      else CodeRanges.contains rest n

end DiagnosticConsole.Text
