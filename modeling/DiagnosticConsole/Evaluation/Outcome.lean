import DiagnosticConsole.Diagnostic.Extent
import DiagnosticConsole.Host.Basic

/-!
# What an evaluation lets pass

Most of what goes wrong in the input is reported. What is not is an exception
that is none of the console's business, a place named by the host that no source
can have, or a diagnostic that is too large to be drawn.
-/

namespace DiagnosticConsole

/-- What leaves an evaluation in place of a result. -/
inductive Escaped where
  | raised (e : Exception)
  | misplaced (fault : SpanFault)
  | oversized (fault : ExtentFault)
  deriving DecidableEq, Repr

/-- The wording of what leaves an evaluation. -/
def Escaped.message : Escaped → Text
  | .raised e => e.message
  | .misplaced fault => fault.message
  | .oversized fault => fault.message

/-- The exception that leaves an evaluation, if it is one. -/
def Escaped.exception? : Escaped → Option Exception
  | .raised e => some e
  | .misplaced _ | .oversized _ => none

end DiagnosticConsole
