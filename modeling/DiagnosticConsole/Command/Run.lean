import DiagnosticConsole.Command.Invocation
import DiagnosticConsole.Console.Session
import DiagnosticConsole.Settings.Load

/-!
# Running the program

A run takes all that the program sees of the world and gives all that it does to
it: what is written to the two outputs, the exit status, and what was asked of the
host and shown on the terminal. Files are checked one after the other, each on its
own; one that cannot be read is told about and counts for the exit status.

Some of the world is left out. The outputs never fail, and the clock stands still
during a run. Texts have no halves of surrogate pairs. The host's limits on the
digits of numbers and on nesting hold where settings are read, and nowhere else; the
memory that runs of characters take is limited (`Host.room`), no other. The class of
an exception can always tell its name and its explanation. Of the terminal there are
the keys that edit a line, but no screen, no menus and no history.
-/

namespace DiagnosticConsole.Command

/-- All that the program sees of the world. -/
structure Environment where
  files : FileSystem
  workingDirectory : Text
  home : Text
  /-- The directory of settings that the environment names. -/
  configDirectory : Option Text := none
  /-- Set to anything but the empty text, it turns colours off. -/
  noColor : Option Text := none
  /-- Whether notices for debugging were wanted from the start. -/
  debug : Bool := false
  /-- The time of day, which is taken to be the same for all notices of a run. -/
  time : TimeOfDay := {}
  languages : Languages
  host : Host
  /-- What the terminal does, should there be a session. -/
  events : List Session.Event := []

/-- What ends the program other than its own exit. -/
inductive Fault where
  | path (fault : PathFault) (place : Text)
  | settings (fault : Settings.LoadFault)
  | session (fault : Session.Fault)
  | check (escaped : Escaped)
  deriving DecidableEq, Repr

namespace Fault

/-- The wording of a fault. -/
def message : Fault → Text
  | path fault place => fault.message place
  | settings fault => fault.message
  | session fault => fault.message
  | check escaped => escaped.message

/-- The exception that ended the program, if it was one. -/
def exception? : Fault → Option Exception
  | path .. | settings _ => none
  | session fault => fault.exception?
  | check escaped => escaped.exception?

end Fault

/-- How the program ends. -/
inductive Ending where
  | exit (status : Nat)
  /-- The input asked for the end, and gave this along. -/
  | requested (argument : Option Text)
  | raised (fault : Fault)
  deriving DecidableEq, Repr

/-- The ending that a fault makes: the request to end the session, wherever it comes
from, is granted. -/
def Ending.ofFault (fault : Fault) : Ending :=
  match fault.exception? with
  | some e => if e.family = .exit then .requested e.argument else .raised fault
  | none => .raised fault

/-- All that the program does to the world. -/
structure Outcome where
  ending : Ending
  standardOutput : Text := []
  standardError : Text := []
  trace : List Session.TraceEntry := []
  requests : List CompileRequest := []

/-- A line on an output that is not a terminal. -/
def echo (t : Text) : Text := Escape.stripEchoed (t ++ ['\n'])

/-- The end of a run whose arguments have a problem. -/
def refuse (scope : Scope) (problem : UsageProblem) : Outcome where
  ending := .exit 2
  standardError := Escape.stripEchoed (scope.complaint problem)

/-- Where the settings of a run come from. -/
def settingsSources (env : Environment) (choices : Choices) : Settings.Sources where
  globalDirectory := Settings.globalDirectory none env.configDirectory env.home
  project := some env.workingDirectory
  overrides := choices.overrides
  noColor := !(env.noColor.getD []).isEmpty

/-- The outcome with more in front of what goes to standard error. -/
def Outcome.after (earlier : Text) (o : Outcome) : Outcome :=
  { o with standardError := earlier ++ o.standardError }

/-- Runs a session. Notices for debugging are told as the settings say. -/
def runSession (env : Environment) (scope : Scope) (settings : Settings) :
    Outcome :=
  let report := Session.start env.host env.languages settings
    (SessionConfig.ofSettings settings) env.events
  let outcome (ending : Ending) : Outcome :=
    { ending
      standardOutput := report.written
      standardError := Notice.renderAll env.time settings.debug report.notices
      trace := report.trace
      requests := report.requests }
  match report.outcome with
  | .ok _ => outcome (.exit 0)
  | .error (.language unknown) => refuse scope (.unknownLanguage unknown.name)
  | .error fault => outcome (Ending.ofFault (.session fault))

/-- A check of several files so far. -/
structure Progress where
  reporter : Reporter
  unreadable : Bool := false
  complaints : Text := []
  requests : List CompileRequest := []

/-- Checks one file. -/
def checkPath (env : Environment) (p : Progress) (path : Text) :
    Progress × Except Escaped Unit :=
  match env.files.readText path with
  | .error fault =>
      ({ p with
          unreadable := true
          complaints := p.complaints
            ++ echo (Text.ofString "Cannot read " ++ path ++ Text.ofString ": "
              ++ fault.message path) },
        .ok ())
  | .ok text =>
      let checked := Evaluation.checkFile env.host p.reporter path text
      ({ p with
          reporter := checked.reporter
          requests := p.requests ++ [checked.request] },
        checked.outcome.map fun _ => ())

/-- Checks files one after the other, up to one whose check does not come to an
end. -/
def checkPaths (env : Environment) :
    Progress → List Text → Progress × Except Escaped Unit
  | p, [] => (p, .ok ())
  | p, path :: rest =>
      match checkPath env p path with
      | (p, .ok ()) => checkPaths env p rest
      | (p, .error escaped) => (p, .error escaped)

/-- The exit status of a check. -/
def exitStatus (p : Progress) : Nat :=
  if p.unreadable then 2 else if p.reporter.hasErrors then 1 else 0

/-- The summary as it is echoed, if there is anything to sum up. -/
def echoedSummary (r : Reporter) : Text :=
  if r.summary.isEmpty then [] else echo r.summary

/-- Checks files and sums up. -/
def runCheck (env : Environment) (settings : Settings) (paths : List Text) :
    Outcome :=
  match Session.renderer env.host.room env.languages settings with
  | .error unknown =>
      refuse (.command .check) (.unknownLanguage unknown.name)
  | .ok renderer =>
      let start : Progress :=
        { reporter := { renderer, explain := settings.explain } }
      match checkPaths env start paths with
      | (p, .error escaped) =>
          { ending := Ending.ofFault (.check escaped)
            standardOutput := p.reporter.written
            standardError := p.complaints
            requests := p.requests }
      | (p, .ok ()) =>
          { ending := .exit (exitStatus p)
            standardOutput := p.reporter.written ++ echoedSummary p.reporter
            standardError := p.complaints
            requests := p.requests }

/-- Loads the settings and goes on with them. -/
def withSettings (env : Environment) (choices : Choices)
    (go : Settings → Outcome) : Outcome :=
  match Settings.load env.files (settingsSources env choices) with
  | (.error fault, notices) =>
      { ending := .raised (.settings fault)
        standardError := Notice.renderAll env.time env.debug notices }
  | (.ok settings, notices) =>
      (go settings).after (Notice.renderAll env.time env.debug notices)

/-- Runs the program. -/
def run (env : Environment) (arguments : List Text) : Outcome :=
  match Invocation.parse env.files arguments with
  | .error (.usage scope problem) => refuse scope problem
  | .error (.notPath fault path) => { ending := .raised (.path fault path) }
  | .ok (.help scope) =>
      { ending := .exit 0, standardOutput := Escape.stripEchoed scope.help }
  | .ok (.repl scope choices) =>
      withSettings env choices (runSession env scope)
  | .ok (.check choices paths) =>
      withSettings env choices fun settings => runCheck env settings paths

end DiagnosticConsole.Command
