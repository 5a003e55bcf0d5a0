import DiagnosticConsole.Proofs.Console.Script
import DiagnosticConsole.Proofs.Diagnostic.Reporter

/-!
# Which failures a session survives

An input that goes wrong is reported as one error, and the session goes on to
the next. Two kinds of exceptions pass: the request for the end, when it comes
from running an input, and what compiling raises unless that is about the input.
These end the session, whatever else is in the script.

That leaves failures that there is no diagnostic for. The text of their exception
cannot be read, they name a line before the first, or they ask for more to be drawn
than can be; then what goes wrong with the diagnostic ends the session in their place.
Every other failure is survived, so `LetsOut` has a case for each way in which a
session ends at an input.
-/

namespace DiagnosticConsole

namespace Evaluator

/-- The failure of an input is reported as one error, and it is the result. -/
structure Diagnosed (host : Host) (e : Evaluator) (text : Text) (f : Failure) :
    Prop where
  outcome : (e.run host text).2 = .ok false
  kind : f.message.kind = Text.ofString "Error"
  report : ∃ site, f.site? (e.run host text).1.sources text = .ok site
    ∧ (e.run host text).1.reporter
      = e.reporter.report f.message (site.map Position.ofSite)
  errors : (e.run host text).1.reporter.errors = e.reporter.errors + 1
  warnings : (e.run host text).1.reporter.warnings = e.reporter.warnings

/-- An input goes well and nothing is reported, or its failure is. -/
def Survives (host : Host) (e : Evaluator) (text : Text) : Prop :=
  match e.failure? host text with
  | none =>
      (e.run host text).2 = .ok true
        ∧ (e.run host text).1.reporter = e.reporter
  | some f => Diagnosed host e text f

/-- What an input lets out in place of a result: the request for the end, raised by
running it; what compiling it raises that is not about the input; what comes up when the
text of an exception is read to be reported; and what is wrong with a diagnostic, be it
on a line before the first or one that cannot be drawn. -/
inductive LetsOut (host : Host) (e : Evaluator) (text : Text) : Escaped → Prop where
  | exit {code : Code} {x : Exception}
      (compiles : host.compile (e.nextRequest text) = .ok code)
      (raises : code.execution.raised = some x) (exit : x.family = .exit) :
      LetsOut host e text (.raised x)
  | foreign {x : Exception}
      (raises : host.compile (e.nextRequest text) = .error (.raised x))
      (foreign : x.isAboutInput = false) : LetsOut host e text (.raised x)
  | unreadableRunning {code : Code} {x fault : Exception}
      (compiles : host.compile (e.nextRequest text) = .ok code)
      (raises : code.execution.raised = some x) (notExit : x.family ≠ .exit)
      (unreadable : x.text = .error fault) : LetsOut host e text (.raised fault)
  | unreadableCompiling {x fault : Exception}
      (raises : host.compile (e.nextRequest text) = .error (.raised x))
      (aboutInput : x.isAboutInput = true) (unreadable : x.text = .error fault) :
      LetsOut host e text (.raised fault)
  | misplaced {f : Failure} {line : Int} (failure : e.failure? host text = some f)
      (stays : f.passing? = none)
      (names : f.line? (e.run host text).1.sources = some line)
      (beforeFirst : line < 1) : LetsOut host e text (.misplaced .beforeFirst)
  | oversized {f : Failure} {site : Option Site} {fault : ExtentFault}
      (failure : e.failure? host text = some f) (stays : f.passing? = none)
      (placed : f.site? (e.run host text).1.sources text = .ok site)
      (undrawn : e.reporter.report? f.message (site.map Position.ofSite)
        = .error fault) : LetsOut host e text (.oversized fault)

/-! ## One input -/

theorem letsOut_of_passing {host : Host} {e : Evaluator} {text : Text}
    {f : Failure} {x : Exception} (hfailure : e.failure? host text = some f)
    (hpassing : f.passing? = some x) : e.LetsOut host text (.raised x) := by
  rw [failure?] at hfailure
  split at hfailure
  · next code hcode =>
      obtain ⟨y, hraised, rfl⟩ := Option.map_eq_some_iff.mp hfailure
      by_cases hexit : y.family = .exit
      · rw [Failure.passing?_of_exit hexit] at hpassing
        obtain rfl := Option.some.inj hpassing
        exact .exit hcode hraised hexit
      · rw [Failure.passing?_of_not_exit hexit] at hpassing
        exact .unreadableRunning hcode hraised hexit
          (Exception.text_eq_error_iff.mpr hpassing)
  · next fault hfault =>
      obtain rfl := Option.some.inj hfailure
      cases fault with
      | invalid _ => cases hpassing
      | raised y =>
          cases habout : y.isAboutInput with
          | true =>
              rw [Failure.passing?_of_isAboutInput habout] at hpassing
              exact .unreadableCompiling hfault habout
                (Exception.text_eq_error_iff.mpr hpassing)
          | false =>
              rw [Failure.passing?_of_foreign habout] at hpassing
              obtain rfl := Option.some.inj hpassing
              exact .foreign hfault habout

/-- A failure that is reported is reported as one error. -/
theorem diagnosed_of_report {host : Host} {e : Evaluator} {text : Text}
    {f : Failure} {site : Option Site}
    (hsite : f.site? (e.run host text).1.sources text = .ok site)
    (hreport : (e.run host text).1.reporter
      = e.reporter.report f.message (site.map Position.ofSite))
    (houtcome : (e.run host text).2 = .ok false) :
    e.Diagnosed host text f := by
  have hcounts := e.reporter.report_sameCounts f.message
    (site.map Position.ofSite)
  rw [← hreport, Reporter.count_of_error e.reporter f.lower_message_kind]
    at hcounts
  exact ⟨houtcome, f.message_kind, ⟨site, hsite, hreport⟩, hcounts.1, hcounts.2⟩

/-- An input is survived, or it lets something out. -/
theorem survives_or_letsOut (host : Host) (e : Evaluator) (text : Text) :
    e.Survives host text
      ∨ ∃ escaped, e.LetsOut host text escaped
        ∧ (e.run host text).2 = .error escaped := by
  rw [Survives]
  rcases run_cases host e text with ⟨hfailure, hrun⟩
    | ⟨f, x, hfailure, hpassing, houtcome, -⟩
    | ⟨f, misplaced, hfailure, hpassing, hsite, houtcome, -⟩
    | ⟨f, site, hfailure, hpassing, hsite⟩
  · rw [hfailure]
    exact .inl hrun
  · exact .inr ⟨.raised x, letsOut_of_passing hfailure hpassing, houtcome⟩
  · obtain ⟨rfl, line, hline, hfirst⟩ := Failure.site?_eq_error_iff.mp hsite
    exact .inr ⟨_, .misplaced hfailure hpassing hline hfirst, houtcome⟩
  · rw [hfailure]
    rcases reportedAs_run hfailure hpassing hsite with
      h | ⟨fault, hreport, -, houtcome⟩
    · exact .inl (diagnosed_of_report hsite h.1 h.2)
    · exact .inr ⟨_, .oversized hfailure hpassing hsite hreport, houtcome⟩

theorem Survives.returns {host : Host} {e : Evaluator} {text : Text}
    (h : e.Survives host text) :
    ∃ wentWell, (e.run host text).2 = .ok wentWell := by
  rw [Survives] at h
  split at h
  · exact ⟨true, h.1⟩
  · exact ⟨false, h.outcome⟩

end Evaluator

/-! ## The whole session -/

namespace Session

/-- A session survives the inputs of its script up to the first that lets something
out, and that ends it. If there is none, it ends in order behind the last. -/
theorem session_survives_failures (host : Host) (parser : LineParser)
    (state : State) {events : List Event}
    (htyped : ∀ event ∈ events, event.isTyped = true) :
    ∃ before rest, inputs events = before ++ rest
      ∧ state.evaluator.Each host (fun e text => e.Survives host text) before
      ∧ ((rest = []
          ∧ run host parser state events
            = (state.afterInputs host before, .ok ()))
        ∨ ∃ text later escaped, rest = text :: later
          ∧ (state.evaluator.runAll host before).LetsOut host text escaped
          ∧ run host parser state events
            = (state.afterInputs host (before ++ [text]),
                .error (.evaluation escaped))) := by
  rw [run_eq_evaluateAll htyped]
  rcases Evaluator.each_or_first_not host (fun e text => e.Survives host text)
    state.evaluator (inputs events) with hall | hfirst
  · have hreturns : state.evaluator.Returns host (inputs events) :=
      hall.imp fun _ _ => Evaluator.Survives.returns
    exact ⟨inputs events, [], (List.append_nil _).symm, hall,
      .inl ⟨rfl, evaluateAll_of_returns hreturns⟩⟩
  · obtain ⟨before, text, later, hinputs, hbefore, hnot⟩ := hfirst
    have hreturns : state.evaluator.Returns host before :=
      hbefore.imp fun _ _ => Evaluator.Survives.returns
    obtain ⟨escaped, hletsOut, hrun⟩ :=
      (Evaluator.survives_or_letsOut host _ text).resolve_left hnot
    refine ⟨before, text :: later, hinputs, hbefore,
      .inr ⟨text, later, escaped, rfl, hletsOut, ?_⟩⟩
    rw [hinputs]
    exact evaluateAll_of_escaped hreturns hrun later

/-- An input that raises when it runs and one that does not compile are survived. The
next asks for the end, and the one behind that is not evaluated. -/
theorem session_survives_failures_before_exit :
    let error : Exception := { name := Text.ofString "ValueError" }
    let exit : Exception :=
      { name := Text.ofString "SystemExit", family := .exit }
    let host : Host :=
      { compile := fun request =>
          if request.text = ['r'] then
            .ok { execution := { raised := some error } }
          else if request.text = ['s'] then .error (.invalid { line := some 1 })
          else if request.text = ['q'] then
            .ok { execution := { raised := some exit } }
          else .ok {}
        builtins := {}
        moduleName := {} }
    let parser : LineParser :=
      { tokenizer := Tokenizer.ofLexer Mini.lexer
        isIncomplete := Evaluation.isUnfinished host
        continuationPrompt := [] }
    let state : State :=
      { evaluator := { reporter := { renderer := {} }, bindings := [] } }
    let events : List Event :=
      [.submitted ['r'], .interrupted, .submitted ['s'], .submitted ['q'],
       .submitted ['x']]
    (∀ event ∈ events, event.isTyped = true)
      ∧ state.evaluator.Each host (fun e text => e.Survives host text) [['r'], ['s']]
      ∧ (state.evaluator.runAll host [['r'], ['s']]).LetsOut host ['q'] (.raised exit)
      ∧ run host parser state events
        = (state.afterInputs host [['r'], ['s'], ['q']],
            .error (.evaluation (.raised exit)))
      ∧ (run host parser state events).1.evaluator.requests
        = Evaluator.requestsOf [['r'], ['s'], ['q']]
      ∧ (run host parser state events).1.evaluator.reporter.errors = 2 := by
  intro error exit host parser state events
  have htyped : ∀ event ∈ events, event.isTyped = true := by decide
  have hcount : (run host parser state events).1.submitted = 3 := by decide +kernel
  have houtcome : (run host parser state events).2
      = .error (.evaluation (.raised exit)) := by decide +kernel
  obtain ⟨before, rest, hinputs, hsurvived, ⟨-, hrun⟩ | hends⟩ :=
    session_survives_failures host parser state htyped
  · rw [hrun] at houtcome
    cases houtcome
  obtain ⟨text, later, escaped, rfl, hletsOut, hrun⟩ := hends
  -- three inputs were run, so the session survived the first two
  rw [hrun] at hcount houtcome
  have hlength : before.length = 2 := by
    have hall : 0 + (before ++ [text]).length = 3 := hcount
    rw [List.length_append, List.length_singleton] at hall
    omega
  have hsplit : [['r'], ['s']] ++ [['q'], ['x']] = before ++ text :: later := hinputs
  obtain ⟨rfl, hlater⟩ := List.append_inj hsplit (by rw [hlength]; rfl)
  obtain ⟨rfl, -⟩ := List.cons.inj hlater
  obtain rfl : Escaped.raised exit = escaped :=
    (Fault.evaluation.inj (Except.error.inj houtcome)).symm
  refine ⟨htyped, hsurvived, hletsOut, hrun, ?_, ?_⟩
  all_goals rw [hrun]; decide +kernel

/-- What ends a session of two inputs before the second is read: an ordinary
exception raised by compiling, one raised by running whose text cannot be read, a
syntax fault before the first line, a frame before the first line, and a page too wide
to be drawn. -/
theorem session_ends_at_failure :
    let memory : Exception := { name := Text.ofString "MemoryError" }
    let unreadable : Exception := { memory with textFaults := [memory.toRaised] }
    let framed : Exception :=
      { memory with
        frames := [{ filename := Evaluator.consoleFilename 1, line := some 0 }] }
    let ran (pageWidth : Int) (answer : Except CompileFault Code) : Report :=
      start
        { compile := fun request =>
            if request.text = ['m'] then answer else .ok {}
          builtins := {}
          moduleName := {} }
        (fun _ => some Mini.lexer) { pageWidth }
        (SessionConfig.ofSettings { pageWidth })
        [.submitted ['m'], .submitted ['x']]
    let endsWith (report : Report) (escaped : Escaped) : Prop :=
      report.outcome = .error (.evaluation escaped)
        ∧ report.requests = Evaluator.requestsOf [['m']] ∧ report.written = []
    memory.isOrdinary = true
      ∧ endsWith (ran 80 (.error (.raised memory))) (.raised memory)
      ∧ endsWith (ran 80 (.ok { execution := { raised := some unreadable } }))
        (.raised memory)
      ∧ endsWith (ran 80 (.error (.invalid { line := some 0 })))
        (.misplaced .beforeFirst)
      ∧ endsWith (ran 80 (.ok { execution := { raised := some framed } }))
        (.misplaced .beforeFirst)
      ∧ endsWith
        (ran (2 * Extent.pastIndexes)
          (.ok { execution := { raised := some memory } }))
        (.oversized .beyondIndex) := by
  intro memory unreadable framed ran endsWith
  refine ⟨rfl, ⟨rfl, rfl, rfl⟩, ⟨?_, ?_, ?_⟩, ⟨rfl, rfl, rfl⟩, ⟨?_, ?_, ?_⟩,
    ⟨?_, ?_, ?_⟩⟩
  all_goals decide +kernel

end Session

end DiagnosticConsole
