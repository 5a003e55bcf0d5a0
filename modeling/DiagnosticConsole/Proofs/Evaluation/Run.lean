import DiagnosticConsole.Evaluation.Evaluator
import DiagnosticConsole.Proofs.Diagnostic.Extent
import DiagnosticConsole.Proofs.Evaluation.Location
import DiagnosticConsole.Proofs.Host.Exception

/-!
# One run in two halves

Running an input does two things that have little to do with each other. It
moves the evaluator on: the input is counted and asked for, and if it compiles
it is kept and its names are bound. And it settles what went wrong, if anything
did. For that it does not matter where the failure comes from, only whether it
passes, what there is to say of it and where it is.

`run_eq_settle` takes a run apart in this way. What the first half does to the
evaluator is seen by looking at it; the second half leaves everything alone but
the reporter, and that too unless a diagnostic was drawn.
-/

namespace DiagnosticConsole

/-- What goes wrong with an input: it does not compile, or running it raises. -/
inductive Failure where
  | compiling (fault : CompileFault)
  | running (x : Exception)
  deriving DecidableEq, Repr

namespace Evaluator

/-! ## Moving on -/

/-- What the host is asked for the input of a number. -/
def inputRequest (number : Nat) (text : Text) : CompileRequest where
  text := text
  filename := consoleFilename number
  mode := .single

/-- An input as a source. -/
def inputSource (text : Text) : SourceFile where
  path := Evaluation.consoleName
  content := text

/-- What the host is asked for the next input. -/
def nextRequest (e : Evaluator) (text : Text) : CompileRequest :=
  inputRequest (e.inputs + 1) text

/-- The evaluator after an input, but for what is reported of it. -/
def advanced (host : Host) (e : Evaluator) (text : Text) : Evaluator :=
  let asked :=
    { e with
      inputs := e.inputs + 1
      requests := e.requests ++ [e.nextRequest text] }
  match host.compile (e.nextRequest text) with
  | .ok code =>
      { asked with
        sources :=
          Table.insert e.sources (e.nextRequest text).filename
            (inputSource text)
        bindings := Table.insertAll e.bindings code.execution.bindings }
  | .error _ => asked

/-- What goes wrong with an input, if anything does. -/
def failure? (host : Host) (e : Evaluator) (text : Text) : Option Failure :=
  match host.compile (e.nextRequest text) with
  | .ok code => code.execution.raised.map .running
  | .error fault => some (.compiling fault)

theorem advanced_inputs (host : Host) (e : Evaluator) (text : Text) :
    (e.advanced host text).inputs = e.inputs + 1 := by
  rw [advanced]
  split <;> rfl

theorem advanced_requests (host : Host) (e : Evaluator) (text : Text) :
    (e.advanced host text).requests = e.requests ++ [e.nextRequest text] := by
  rw [advanced]
  split <;> rfl

theorem advanced_reporter (host : Host) (e : Evaluator) (text : Text) :
    (e.advanced host text).reporter = e.reporter := by
  rw [advanced]
  split <;> rfl

end Evaluator

/-! ## What there is to know of a failure -/

namespace Failure

/-- The exception that passes in place of a report: the one of the failure, or what
comes up when its text is read to be reported. -/
def passing? : Failure → Option Exception
  | .compiling (.invalid _) => none
  | .compiling (.raised x) => if x.isAboutInput then x.textFault? else some x
  | .running x => if x.family = .exit then some x else x.textFault?

/-- What there is to say of a failure. -/
def message : Failure → Message
  | .compiling (.invalid fault) =>
      { text := fault.text, explanation := Evaluation.trimmed fault.explanation }
  | .compiling (.raised x) => { text := x.message }
  | .running x => Evaluator.raisedMessage x x.message

/-- Where a failure of an input is, if it has a place. -/
def site? (sources : Table SourceFile) (text : Text) :
    Failure → Except SpanFault (Option Site)
  | .compiling (.invalid fault) =>
      (Evaluation.syntaxSpan fault).map fun span =>
        span.map fun span => { source := Evaluator.inputSource text, span }
  | .compiling (.raised _) => .ok none
  | .running x => Evaluation.tracebackSite sources x.frames

/-- The line that a failure names: that of the syntax fault, or that of the
innermost frame in a source. -/
def line? (sources : Table SourceFile) : Failure → Option Int
  | .compiling (.invalid fault) => fault.line
  | .compiling (.raised _) => none
  | .running x =>
      (Evaluation.innermost sources x.frames).bind fun found => found.1.line

/-- The request for the end passes as it is. -/
theorem passing?_of_exit {x : Exception} (h : x.family = .exit) :
    (Failure.running x).passing? = some x :=
  if_pos h

theorem passing?_of_not_exit {x : Exception} (h : x.family ≠ .exit) :
    (Failure.running x).passing? = x.textFault? :=
  if_neg h

/-- What compiling raises passes as it is if it is not about the input. -/
theorem passing?_of_foreign {x : Exception} (h : x.isAboutInput = false) :
    (Failure.compiling (.raised x)).passing? = some x :=
  if_neg ((Bool.not_eq_true _).mpr h)

theorem passing?_of_isAboutInput {x : Exception} (h : x.isAboutInput = true) :
    (Failure.compiling (.raised x)).passing? = x.textFault? :=
  if_pos h

/-- Every failure is an error. -/
theorem message_kind (f : Failure) : f.message.kind = Text.ofString "Error" := by
  match f with
  | .compiling (.invalid _) => rfl
  | .compiling (.raised _) => rfl
  | .running _ => rfl

theorem lower_message_kind (f : Failure) :
    Text.lower f.message.kind = Text.ofString "error" := by
  rw [f.message_kind]
  decide

/-- The only failure that has no place though it names one is on a line before
the first. -/
theorem site?_eq_error_iff {sources : Table SourceFile} {text : Text}
    {f : Failure} {misplaced : SpanFault} :
    f.site? sources text = .error misplaced
      ↔ misplaced = .beforeFirst
        ∧ ∃ line, f.line? sources = some line ∧ line < 1 := by
  match f with
  | .compiling (.invalid fault) =>
      rw [line?, ← Evaluation.syntaxSpan_eq_error_iff, site?]
      cases Evaluation.syntaxSpan fault with
      | ok span => simp [Except.map]
      | error misplaced => simp [Except.map]
  | .compiling (.raised x) =>
      rw [site?, line?]
      constructor
      · intro h
        cases h
      · rintro ⟨-, line, hline, -⟩
        cases hline
  | .running x =>
      rw [site?, line?, Evaluation.tracebackSite_eq_error_iff]
      simp only [Option.bind_eq_some_iff, Prod.exists]
      constructor
      · rintro ⟨hfault, frame, source, line, hfound, hline, hfirst⟩
        exact ⟨hfault, line, ⟨frame, source, hfound, hline⟩, hfirst⟩
      · rintro ⟨hfault, line, ⟨frame, source, hfound, hline⟩, hfirst⟩
        exact ⟨hfault, frame, source, line, hfound, hline, hfirst⟩

end Failure

/-! ## Settling a failure -/

namespace Evaluator

/-- Tells a message, which is a result; one that cannot be drawn is none. -/
def tell (e : Evaluator) (message : Message) (site : Option Site) :
    Evaluator × Except Escaped Bool :=
  match Evaluation.reportMessage e.reporter message
      (site.map Position.ofSite) with
  | .ok reporter => ({ e with reporter }, .ok false)
  | .error escaped => (e, .error escaped)

/-- What becomes of an input that went wrong in one way or not at all. -/
def settle (e : Evaluator) (text : Text) :
    Option Failure → Evaluator × Except Escaped Bool
  | none => (e, .ok true)
  | some f =>
      match f.passing? with
      | some x => (e, .error (.raised x))
      | none =>
          match f.site? e.sources text with
          | .error misplaced => (e, .error (.misplaced misplaced))
          | .ok site => e.tell f.message site

theorem execute_eq_settle (e : Evaluator) (execution : Execution) (text : Text) :
    execute e execution
      = settle
          { e with
            bindings := Table.insertAll e.bindings execution.bindings }
          text (execution.raised.map .running) := by
  rw [execute]
  cases hraised : execution.raised with
  | none => rfl
  | some x =>
      rw [Option.map_some, settle, Failure.passing?]
      by_cases hexit : x.family = .exit
      · simp only [if_pos hexit]
      · simp only [if_neg hexit, x.text_eq]
        cases x.textFault? <;> rfl

theorem reportCompileFault_eq_settle (e : Evaluator) (text : Text)
    (fault : CompileFault) :
    (match Evaluation.reportCompileFault e.reporter (inputSource text) fault with
      | .ok reporter => ({ e with reporter }, .ok false)
      | .error escaped => (e, .error escaped))
      = settle e text (some (.compiling fault)) := by
  match fault with
  | .invalid fault =>
      simp only [settle, Failure.passing?, Failure.site?,
        Evaluation.reportCompileFault]
      cases Evaluation.syntaxSpan fault with
      | error misplaced => rfl
      | ok span =>
          simp only [Except.map, tell, Option.map_map]
          rfl
  | .raised x =>
      simp only [settle, Failure.passing?, Evaluation.reportCompileFault]
      by_cases habout : x.isAboutInput = true
      · rw [if_pos habout, if_pos habout, x.text_eq]
        cases x.textFault? <;> rfl
      · rw [if_neg habout, if_neg habout]

/-- A run moves the evaluator on and settles what went wrong. -/
theorem run_eq_settle (host : Host) (e : Evaluator) (text : Text) :
    run host e text
      = settle (e.advanced host text) text (e.failure? host text) := by
  rw [run, advanced, failure?]
  simp only []
  rw [show (CompileRequest.mk text (consoleFilename (e.inputs + 1 : Nat)) .single)
    = e.nextRequest text from rfl]
  cases host.compile (e.nextRequest text) with
  | ok code => exact execute_eq_settle _ code.execution text
  | error fault =>
      exact reportCompileFault_eq_settle
        { e with
          inputs := e.inputs + 1
          requests := e.requests ++ [e.nextRequest text] }
        text fault

/-! ## What settling leaves alone -/

theorem settle_fst (e : Evaluator) (text : Text) (failure : Option Failure) :
    ∃ reporter, (settle e text failure).1 = { e with reporter } := by
  match failure with
  | none => exact ⟨e.reporter, rfl⟩
  | some f =>
      rw [settle]
      split
      · exact ⟨e.reporter, rfl⟩
      · split
        · exact ⟨e.reporter, rfl⟩
        · rw [tell]
          split
          · next reporter _ => exact ⟨reporter, rfl⟩
          · exact ⟨e.reporter, rfl⟩

/-- After a run the evaluator has moved on, whatever was reported. -/
theorem run_fst (host : Host) (e : Evaluator) (text : Text) :
    ∃ reporter, (run host e text).1 = { e.advanced host text with reporter } := by
  rw [run_eq_settle]
  exact settle_fst _ text _

theorem run_sources (host : Host) (e : Evaluator) (text : Text) :
    (run host e text).1.sources = (e.advanced host text).sources := by
  obtain ⟨reporter, hrun⟩ := run_fst host e text
  rw [hrun]

/-- A message is reported at a site, and so the input has failed; or else its
diagnostic cannot be drawn, and the reporter stays as it was. -/
def ReportedAs (before : Reporter) (message : Message) (site : Option Site)
    (after : Evaluator × Except Escaped Bool) : Prop :=
  (after.1.reporter = before.report message (site.map Position.ofSite)
      ∧ after.2 = .ok false)
    ∨ ∃ fault,
      before.report? message (site.map Position.ofSite) = .error fault
        ∧ after.1.reporter = before ∧ after.2 = .error (.oversized fault)

theorem reportedAs_tell (e : Evaluator) (message : Message)
    (site : Option Site) :
    ReportedAs e.reporter message site (e.tell message site) := by
  rw [tell, Evaluation.reportMessage]
  cases hreport : e.reporter.report? message (site.map Position.ofSite) with
  | ok reporter =>
      exact .inl ⟨(Extent.drawn_eq_ok_iff.mp hreport).2.symm, rfl⟩
  | error fault => exact .inr ⟨fault, hreport, rfl, rfl⟩

theorem run_of_no_failure {host : Host} {e : Evaluator} {text : Text}
    (h : e.failure? host text = none) :
    (e.run host text).2 = .ok true
      ∧ (e.run host text).1.reporter = e.reporter := by
  rw [run_eq_settle, h]
  exact ⟨rfl, advanced_reporter host e text⟩

theorem run_of_passing {host : Host} {e : Evaluator} {text : Text} {f : Failure}
    {x : Exception} (hfailure : e.failure? host text = some f)
    (hpassing : f.passing? = some x) :
    (e.run host text).2 = .error (.raised x)
      ∧ (e.run host text).1.reporter = e.reporter := by
  rw [run_eq_settle, hfailure, settle, hpassing]
  exact ⟨rfl, advanced_reporter host e text⟩

/-- What comes of a failure that has neither passed nor a place. -/
theorem run_of_misplaced {host : Host} {e : Evaluator} {text : Text} {f : Failure}
    {misplaced : SpanFault} (hfailure : e.failure? host text = some f)
    (hpassing : f.passing? = none)
    (hsite : f.site? (e.run host text).1.sources text = .error misplaced) :
    (e.run host text).2 = .error (.misplaced misplaced)
      ∧ (e.run host text).1.reporter = e.reporter := by
  rw [run_sources] at hsite
  rw [run_eq_settle, hfailure, settle, hpassing]
  simp only []
  rw [hsite]
  exact ⟨rfl, advanced_reporter host e text⟩

/-- A failure that does not pass is told where it is. -/
theorem run_eq_tell {host : Host} {e : Evaluator} {text : Text} {f : Failure}
    {site : Option Site} (hfailure : e.failure? host text = some f)
    (hpassing : f.passing? = none)
    (hsite : f.site? (e.run host text).1.sources text = .ok site) :
    e.run host text = (e.advanced host text).tell f.message site := by
  rw [run_sources] at hsite
  rw [run_eq_settle, hfailure, settle, hpassing]
  simp only []
  rw [hsite]

/-- An input goes well, lets an exception pass, fails on a line that there is
none of, or is told of. Only in the last case does the reporter change. -/
theorem run_cases (host : Host) (e : Evaluator) (text : Text) :
    (e.failure? host text = none ∧ (e.run host text).2 = .ok true
      ∧ (e.run host text).1.reporter = e.reporter)
    ∨ (∃ f x, e.failure? host text = some f ∧ f.passing? = some x
      ∧ (e.run host text).2 = .error (.raised x)
      ∧ (e.run host text).1.reporter = e.reporter)
    ∨ (∃ f misplaced, e.failure? host text = some f ∧ f.passing? = none
      ∧ f.site? (e.run host text).1.sources text = .error misplaced
      ∧ (e.run host text).2 = .error (.misplaced misplaced)
      ∧ (e.run host text).1.reporter = e.reporter)
    ∨ ∃ f site, e.failure? host text = some f ∧ f.passing? = none
      ∧ f.site? (e.run host text).1.sources text = .ok site := by
  cases hfailure : e.failure? host text with
  | none => exact .inl ⟨rfl, run_of_no_failure hfailure⟩
  | some f =>
      cases hpassing : f.passing? with
      | some x =>
          exact .inr (.inl ⟨f, x, rfl, hpassing,
            run_of_passing hfailure hpassing⟩)
      | none =>
          cases hsite : f.site? (e.run host text).1.sources text with
          | error misplaced =>
              exact .inr (.inr (.inl ⟨f, misplaced, rfl, hpassing, hsite,
                run_of_misplaced hfailure hpassing hsite⟩))
          | ok site => exact .inr (.inr (.inr ⟨f, site, rfl, hpassing, hsite⟩))

theorem reportedAs_run {host : Host} {e : Evaluator} {text : Text} {f : Failure}
    {site : Option Site} (hfailure : e.failure? host text = some f)
    (hpassing : f.passing? = none)
    (hsite : f.site? (e.run host text).1.sources text = .ok site) :
    ReportedAs e.reporter f.message site (e.run host text) := by
  rw [run_eq_tell hfailure hpassing hsite, ← advanced_reporter host e text]
  exact reportedAs_tell _ _ site

end Evaluator

end DiagnosticConsole
