import DiagnosticConsole.Command.Option
import DiagnosticConsole.Files.Basic
import DiagnosticConsole.Json.Basic
import DiagnosticConsole.Text.Integer

/-!
# How the program was called

The program has two commands, to run a session and to check files; called without
a command it runs a session. Whatever is wrong with the arguments is found here,
in a fixed order: options that are not known or lack their value, the request for
help, values that will not do, files that are directories, too few and too many
arguments.
-/

namespace DiagnosticConsole.Command

/-- The commands. -/
inductive Subcommand where
  | repl
  | check
  deriving DecidableEq, Repr

/-- What arguments are for: the program as a whole or one command. -/
inductive Scope where
  | program
  | command (name : Subcommand)
  deriving DecidableEq, Repr

namespace Subcommand

/-- The name of a command. -/
def name : Subcommand → Text
  | repl => Text.ofString "repl"
  | check => Text.ofString "check"

/-- The command of a name. -/
def ofName? (name : Text) : Option Subcommand :=
  [repl, check].find? fun command => command.name = name

/-- The options of a command. -/
def flags : List Flag :=
  [.pageWidth, .noColor, .explain, .language, .debug, .help]

end Subcommand

namespace Scope

/-- How the program or a command is called. -/
def path : Scope → Text
  | program => Text.ofString "caret"
  | command name => Text.ofString "caret " ++ name.name

/-- What arguments there may be. -/
def arguments : Scope → Text
  | program => Text.ofString " [OPTIONS] COMMAND [ARGS]..."
  | command .repl => Text.ofString " [OPTIONS]"
  | command .check => Text.ofString " [OPTIONS] FILES..."

/-- The line that reminds of the usage. -/
def usage (scope : Scope) : Text :=
  Text.ofString "Usage: " ++ scope.path ++ scope.arguments ++ ['\n']

/-- What the program or a command is good for. -/
def purpose : Scope → Text
  | program =>
      Text.ofString
        "Interactive Python console with compiler-style diagnostics."
  | command .repl =>
      Text.ofString "Start the interactive console (Ctrl-D to leave)."
  | command .check =>
      Text.ofString "Compile Python FILES and report syntax errors."

/-- The table of options and, for the program, of commands. -/
def table : Scope → List String
  | program =>
      ["Options:",
       "  --help  Show this message and exit.",
       "",
       "Commands:",
       "  check  Compile Python FILES and report syntax errors.",
       "  repl   Start the interactive console (Ctrl-D to leave)."]
  | command _ =>
      ["Options:",
       "  --page-width INTEGER RANGE  Diagnostic width in columns  [x>=0]",
       "  --no-color                  Disable ANSI colors",
       "  --explain                   Print explanations after diagnostics",
       "  --language TEXT             Pygments lexer used for tokens and colors",
       "  --debug                     Log debug messages to stderr",
       "  --help                      Show this message and exit."]

/-- The help text. -/
def help (scope : Scope) : Text :=
  scope.usage ++ ['\n'] ++ Text.spaces 2 ++ scope.purpose ++ ['\n', '\n']
    ++ scope.table.flatMap fun line => Text.ofString line ++ ['\n']

/-- What is told about a problem with the arguments. -/
def complaint (scope : Scope) (problem : UsageProblem) : Text :=
  (if problem.isBare then []
   else
    scope.usage ++ Text.ofString "Try '" ++ scope.path
      ++ Text.ofString " --help' for help.\n\n")
    ++ Text.ofString "Error: " ++ problem.message ++ ['\n']

end Scope

/-- What the options of a command say. -/
structure Choices where
  pageWidth : Option Int := none
  noColor : Bool := false
  explain : Bool := false
  language : Option Text := none
  debug : Bool := false
  deriving DecidableEq, Repr

/-- The choices as members that lie over the layers of settings; what was not
chosen is null. -/
def Choices.overrides (c : Choices) : Table Json :=
  let integer : Option Int → Json
    | some n => .integer n
    | none => .null
  let text : Option Text → Json
    | some t => .string t
    | none => .null
  let flag (given value : Bool) : Json := if given then .bool value else .null
  [(Text.ofString "pageWidth", integer c.pageWidth),
   (Text.ofString "color", flag c.noColor false),
   (Text.ofString "explain", flag c.explain true),
   (Text.ofString "language", text c.language),
   (Text.ofString "debug", flag c.debug true)]

/-- What the program is to do. Problems that show up later are told in the words of
a scope. -/
inductive Invocation where
  | help (scope : Scope)
  | repl (scope : Scope) (choices : Choices)
  | check (choices : Choices) (files : List Text)
  deriving DecidableEq, Repr

/-- The page width that was asked for. -/
def pageWidthOf (value : Option Text) : Except UsageProblem (Option Int) :=
  match value with
  | none => .ok none
  | some t =>
      match Text.Integer.read t with
      | .error _ => .error (.notAnInteger t)
      | .ok n => if n < 0 then .error (.negative n) else .ok (some n)

/-- The choices that options make. -/
def choicesOf (s : Scanned) : Except UsageProblem Choices :=
  match pageWidthOf (s.value? .pageWidth) with
  | .error problem => .error problem
  | .ok pageWidth =>
      .ok
        { pageWidth
          noColor := s.gives .noColor
          explain := s.gives .explain
          language := s.value? .language
          debug := s.gives .debug }

/-- Why a call comes to nothing: a problem, told in the words of a scope, or an
argument that is no path. -/
inductive CallFault where
  | usage (scope : Scope) (problem : UsageProblem)
  | notPath (fault : PathFault) (path : Text)
  deriving DecidableEq, Repr

/-- Looks at the files to check, one after the other: none of them may be a
directory. -/
def checkable (files : FileSystem) : List Text → Except CallFault Unit
  | [] => .ok ()
  | path :: rest =>
      match files.kind path with
      | .ok .directory =>
          .error (.usage (.command .check) (.isDirectory path))
      | .error .nullCharacter => .error (.notPath .nullCharacter path)
      | _ => checkable files rest

/-- The call of a command with options and arguments that were told apart. -/
def invocationOf (files : FileSystem) (command : Subcommand) (choices : Choices)
    (arguments : List Text) : Except CallFault Invocation :=
  match command with
  | .repl =>
      if arguments.isEmpty then .ok (.repl (.command .repl) choices)
      else .error (.usage (.command .repl) (.extraArguments arguments))
  | .check =>
      if arguments.isEmpty then .error (.usage (.command .check) .noFiles)
      else (checkable files arguments).map fun _ => .check choices arguments

/-- The call of a command with its arguments. -/
def Subcommand.parse (files : FileSystem) (command : Subcommand)
    (arguments : List Text) : Except CallFault Invocation :=
  match scan Subcommand.flags true arguments with
  | .error problem => .error (.usage (.command command) problem)
  | .ok scanned =>
      if scanned.gives .help then .ok (.help (.command command))
      else
        match choicesOf scanned with
        | .error problem => .error (.usage (.command command) problem)
        | .ok choices => invocationOf files command choices scanned.others

/-- The call of the program with its arguments. -/
def Invocation.parse (files : FileSystem) (arguments : List Text) :
    Except CallFault Invocation :=
  match scan [.help] false arguments with
  | .error problem => .error (.usage .program problem)
  | .ok scanned =>
      if scanned.gives .help then .ok (.help .program)
      else
        match scanned.others with
        | [] => .ok (.repl .program {})
        | name :: rest =>
            match Subcommand.ofName? name with
            | none => .error (.usage .program (.noSuchCommand name))
            | some command => command.parse files rest

end DiagnosticConsole.Command
