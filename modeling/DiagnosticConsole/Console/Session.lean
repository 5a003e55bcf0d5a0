import DiagnosticConsole.Editing.Completion
import DiagnosticConsole.Evaluation.Candidates
import DiagnosticConsole.Language.Basic
import DiagnosticConsole.Settings.Basic

/-!
# The console session

A session reads inputs from the terminal and evaluates them, one after the other,
until the terminal ends it or an input is a command to quit. What the terminal
does is a list of events, so a session is a fold over events; the end of the list
ends the session.
-/

namespace DiagnosticConsole

/-- What the terminal shows, apart from diagnostics. -/
structure SessionConfig where
  pageWidth : Int
  prompt : Text
  continuationPrompt : Text
  color : Bool
  deriving DecidableEq, Repr

namespace SessionConfig

/-- What the settings make the terminal show. -/
def ofSettings (s : Settings) : SessionConfig where
  pageWidth := s.pageWidth
  prompt := s.prompt
  continuationPrompt := s.continuationPrompt
  color := s.color

/-- The palette of the terminal. -/
def palette (config : SessionConfig) : Palette := { enabled := config.color }

end SessionConfig

namespace Session

/-- What the terminal does. Besides inputs there are the requests it makes of the
line parser and of the source of candidates. -/
inductive Event where
  | submitted (text : Text)
  | interrupted
  | ended
  | accept (line : Text) (cursor : Int)
  | complete (line : Text) (cursor : Int)
  | candidates (text : Text) (wordStart : Int) (typed : Text)
  deriving DecidableEq, Repr

/-- What a terminal sees of a session. -/
inductive TraceEntry where
  | opened (config : SessionConfig) (highlighterIsPlain : Bool)
  | decided (decision : Decision)
  | completed (parsed : ParsedLine)
  | listed (names : List Text)
  | closed
  deriving DecidableEq, Repr

/-- What ends a session before its time. -/
inductive Fault where
  | language (unknown : UnknownLanguage)
  | evaluation (escaped : Escaped)
  | edit (fault : EditFault)
  | candidates (e : Exception)
  deriving DecidableEq, Repr

/-- The wording of a fault. -/
def Fault.message : Fault → Text
  | .language unknown => unknown.message
  | .evaluation escaped => escaped.message
  | .edit fault => fault.message
  | .candidates e => e.message

/-- The exception that ended a session, if it was one. -/
def Fault.exception? : Fault → Option Exception
  | .language _ => none
  | .evaluation escaped => escaped.exception?
  | .edit fault => fault.exception?
  | .candidates e => some e

/-- The commands that end a session. -/
def quitCommands : List Text :=
  [":quit", ":q", ":exit"].map Text.ofString

/-- Tests for a command to quit, with blanks around it or not. -/
def isQuit (text : Text) : Bool := quitCommands.contains (Text.trim text)

/-- Tests for an input with nothing in it but blanks. -/
def isBlank (text : Text) : Bool := (Text.trim text).isEmpty

/-- A session between two events. -/
structure State where
  evaluator : Evaluator
  /-- How many inputs were evaluated. -/
  submitted : Nat := 0
  trace : List TraceEntry := []
  notices : List Notice := []

/-- What an event does to a session: it goes on, or it ends, in order or not. -/
inductive Step where
  | goOn (state : State)
  | finish (state : State) (outcome : Except Fault Unit)

/-- Evaluates an input. -/
def evaluate (host : Host) (state : State) (text : Text) : Step :=
  match state.evaluator.run host text with
  | (evaluator, .ok _) =>
      .goOn { state with evaluator, submitted := state.submitted + 1 }
  | (evaluator, .error escaped) =>
      .finish { state with evaluator, submitted := state.submitted + 1 }
        (.error (.evaluation escaped))

/-- Notes what the host was asked about completeness. -/
def noteAsked (state : State) (asked : List Text) : State :=
  { state with
    evaluator := { state.evaluator with
      requests := state.evaluator.requests
        ++ asked.map Evaluation.completenessRequest } }

/-- Adds what a terminal sees. -/
def noteTrace (state : State) (entry : TraceEntry) : State :=
  { state with trace := state.trace ++ [entry] }

/-- Adds what there is to tell. -/
def noteNotices (state : State) (notices : List Notice) : State :=
  { state with notices := state.notices ++ notices }

/-- What an event does to a session. -/
def step (host : Host) (parser : LineParser) (state : State) : Event → Step
  | .submitted text =>
      if isQuit text then .finish state (.ok ())
      else if isBlank text then .goOn state
      else evaluate host state text
  | .interrupted => .goOn state
  | .ended => .finish state (.ok ())
  | .accept line cursor =>
      let ruling := parser.accept line cursor
      let asked := noteAsked state ruling.asked
      match ruling.outcome with
      | .ok decision => .goOn (noteTrace asked (.decided decision))
      | .error fault => .finish asked (.error (.edit fault))
  | .complete line cursor =>
      let (parsed, notices) := parser.complete line cursor
      let told := noteNotices state notices
      match parsed with
      | .ok parsed => .goOn (noteTrace told (.completed parsed))
      | .error fault => .finish told (.error (.edit fault))
  | .candidates text wordStart _ =>
      let (names, notices) := state.evaluator.candidates host text wordStart
      let told := noteNotices state notices
      match names with
      | .ok names => .goOn (noteTrace told (.listed names))
      | .error e => .finish told (.error (.candidates e))

/-- A session over events. -/
def run (host : Host) (parser : LineParser) :
    State → List Event → State × Except Fault Unit
  | state, [] => (state, .ok ())
  | state, event :: rest =>
      match step host parser state event with
      | .goOn state => run host parser state rest
      | .finish state outcome => (state, outcome)

/-- What a whole session comes to: the count of inputs or what ended it, all that
was written, seen and told, and what was asked of the host. -/
structure Report where
  outcome : Except Fault Nat
  written : Text := []
  trace : List TraceEntry := []
  notices : List Notice := []
  requests : List CompileRequest := []

/-- The renderer that the settings ask for, where there is room for runs of so many
characters. -/
def renderer (room : Nat) (languages : Languages) (s : Settings) :
    Except UnknownLanguage Renderer :=
  match languages.highlighter s.language s.color with
  | .ok highlighter =>
      .ok
        { pageWidth := s.pageWidth, highlighter, palette := { enabled := s.color }
          room }
  | .error unknown => .error unknown

/-- What a session begins with. -/
structure Setup where
  parser : LineParser
  state : State

/-- The highlighter of the terminal. -/
def terminalHighlighter (config : SessionConfig) (lexer : Lexer) : Highlighter :=
  if config.color then Coloring.highlighter lexer else .plain

/-- Sets up a session. The language has to be known even where no colours are
wanted, for the line parser needs its lexer. -/
def setup (host : Host) (languages : Languages) (s : Settings)
    (config : SessionConfig) : Except UnknownLanguage Setup :=
  match renderer host.room languages s, languages.lexer s.language with
  | .error unknown, _ => .error unknown
  | .ok _, .error unknown => .error unknown
  | .ok renderer, .ok lexer =>
      .ok
        { parser :=
            { tokenizer := Tokenizer.ofLexer lexer
              isIncomplete := Evaluation.isUnfinished host
              continuationPrompt := config.continuationPrompt }
          state :=
            { evaluator :=
                { reporter := { renderer, explain := s.explain }
                  bindings := Evaluator.initialBindings host }
              trace :=
                [.opened config (terminalHighlighter config lexer).isPlain]
              notices := [.sessionStarted s.language config.pageWidth] } }

/-- The report of a session that is over. The terminal is closed in any case; the
end is told only if it came in order. -/
def report (state : State) (outcome : Except Fault Unit) : Report where
  outcome := outcome.map fun _ => state.submitted
  written := state.evaluator.reporter.written
  trace := state.trace ++ [.closed]
  notices :=
    match outcome with
    | .ok _ => state.notices ++ [.sessionEnded state.submitted]
    | .error _ => state.notices
  requests := state.evaluator.requests

/-- Runs a whole session. -/
def start (host : Host) (languages : Languages) (s : Settings)
    (config : SessionConfig) (events : List Event) : Report :=
  match setup host languages s config with
  | .error unknown => { outcome := .error (.language unknown) }
  | .ok { parser, state } =>
      let (state, outcome) := run host parser state events
      report state outcome

end Session

end DiagnosticConsole
