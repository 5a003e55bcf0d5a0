import DiagnosticConsole.Diagnostic.Reporter
import DiagnosticConsole.Evaluation.Location
import DiagnosticConsole.Evaluation.Outcome

/-!
# Texts that do not compile

A text that does not compile is reported at the place the host names. The same
holds for an input of the console and for a whole file; only where the text is
still being typed, it counts as complete instead, so that it gets reported once
it is submitted.
-/

namespace DiagnosticConsole.Evaluation

/-- The explanation that an exception brings along. -/
def trimmed (explanation : Option Text) : Option Text :=
  explanation.map Text.trim

/-- Reports a message in the course of an evaluation. -/
def reportMessage (reporter : Reporter) (message : Message)
    (position : Option Position) : Except Escaped Reporter :=
  match reporter.report? message position with
  | .ok reporter => .ok reporter
  | .error fault => .error (.oversized fault)

/-- Reports why a source does not compile, unless that is none of the console's
business. -/
def reportCompileFault (reporter : Reporter) (source : SourceFile) :
    CompileFault → Except Escaped Reporter
  | .invalid fault =>
      let message : Message :=
        { text := fault.text, explanation := trimmed fault.explanation }
      match syntaxSpan fault with
      | .error misplaced => .error (.misplaced misplaced)
      | .ok span =>
          reportMessage reporter message
            (span.map fun span => Position.ofSite { source, span })
  | .raised e =>
      if e.isAboutInput then
        match e.text with
        | .ok text => reportMessage reporter { text } none
        | .error fault => .error (.raised fault)
      else .error (.raised e)

/-- What became of a file: the reporter after it, what was asked of the host, and
whether the file compiles. -/
structure Checked where
  reporter : Reporter
  request : CompileRequest
  outcome : Except Escaped Bool

/-- A file that does not compile, after the attempt to report it. -/
def Checked.reported (before : Reporter) (request : CompileRequest) :
    Except Escaped Reporter → Checked
  | .ok reporter => { reporter, request, outcome := .ok false }
  | .error escaped =>
      { reporter := before, request, outcome := .error escaped }

/-- Compiles a whole file and reports it if it does not. -/
def checkFile (host : Host) (reporter : Reporter) (path text : Text) : Checked :=
  let source : SourceFile := { path, content := text }
  let request : CompileRequest := { text, filename := path, mode := .file }
  match host.compile request with
  | .ok _ => { reporter, request, outcome := .ok true }
  | .error (.invalid fault) =>
      let message : Message :=
        { text := fault.text, explanation := trimmed fault.explanation }
      match syntaxSpan fault with
      | .error misplaced =>
          { reporter, request, outcome := .error (.misplaced misplaced) }
      | .ok span =>
          .reported reporter request
            (reportMessage reporter message
              (span.map fun span => Position.ofSite { source, span }))
  | .error (.raised e) =>
      match e.family with
      | .overflow | .value =>
          match e.text with
          | .ok text =>
              .reported reporter request (reportMessage reporter { text } none)
          | .error fault => { reporter, request, outcome := .error (.raised fault) }
      | .missingAttribute | .exit | .ordinary | .fatal =>
          { reporter, request, outcome := .error (.raised e) }

/-- The name under which the input of the console is shown. -/
def consoleName : Text := Text.ofString "<console>"

/-- The request behind the question whether a text is complete. -/
def completenessRequest (text : Text) : CompileRequest :=
  { text, filename := consoleName, mode := .single }

/-- Asks the host whether a text can only be the beginning of a statement. One
that does not compile at all is not. -/
def isUnfinished (host : Host) (text : Text) : Except Exception Bool :=
  match host.compile (completenessRequest text) with
  | .ok code => .ok code.isUnfinished
  | .error (.invalid _) => .ok false
  | .error (.raised e) => if e.isAboutInput then .ok false else .error e

end DiagnosticConsole.Evaluation
