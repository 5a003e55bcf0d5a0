import DiagnosticConsole.Text.Quoted

/-!
# Names out of a fixed set

Some values are given by name. A name that is none of the set is refused with
the name in quotes and what it should have been.
-/

namespace DiagnosticConsole.Text

/-- A name that is none of those expected. -/
structure UnknownName where
  name : Text
  expected : Text
  deriving DecidableEq, Repr

/-- The wording of the refusal. -/
def UnknownName.message (unknown : UnknownName) : Text :=
  quoted unknown.name ++ ofString " is not a valid " ++ unknown.expected

end DiagnosticConsole.Text
