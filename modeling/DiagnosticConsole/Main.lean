import DiagnosticConsole.Command.Run
import DiagnosticConsole.Host.TextObject
import Std.Time.Zoned

/-!
# The program

The outer layer: it looks at the arguments, the environment, the files that may
be needed, the clock and the lines that are typed, and writes what a run gives.
No language is built in, so its host takes every text as it is and runs nothing.
-/

namespace DiagnosticConsole.Main

/-- A host without a language. Runs of more than `2 ^ 32` characters are not tried. -/
def inertHost : Host where
  compile _ := .ok {}
  builtins := {}
  moduleName := .text
  room := 0x100000000

/-- The languages that have a lexer. -/
def languages : Languages := fun name =>
  if name = Text.ofString "python" ∨ name = Text.ofString "mini" then
    some Mini.lexer
  else none

/-- What was found at a path. -/
structure Found where
  kind : Except PathFault FileKind
  bytes : Except PathFault Text.Bytes

/-- An error of the system in the words of the library. -/
def osError : IO.Error → OsError
  | .noFileOrDirectory .. => .noSuchFile
  | .inappropriateType _ code _ =>
      if code = 21 then .isDirectory else .notDirectory
  | .permissionDenied .. => ⟨13, Text.ofString "Permission denied"⟩
  | other => ⟨5, Text.ofString (ToString.toString other)⟩

/-- Looks at a path. -/
def look (path : Text) : IO Found := do
  if path.contains '\x00' then
    return { kind := .error .nullCharacter, bytes := .error .nullCharacter }
  match ← (IO.FS.readBinFile (Text.asString path)).toBaseIO with
  | .ok bytes => return { kind := .ok .file, bytes := .ok bytes.toList }
  | .error e =>
      let fault := PathFault.system (osError e)
      let kind :=
        if fault = .system .isDirectory then .ok .directory else .error fault
      return { kind, bytes := .error fault }

/-- The file system of what was found. -/
def snapshot (found : Table Found) : FileSystem where
  kind path :=
    match Table.get? found path with
    | some f => f.kind
    | none => .error (.system .noSuchFile)
  read path :=
    match Table.get? found path with
    | some f => f.bytes
    | none => .error (.system .noSuchFile)

/-- Reads lines until there are no more. -/
partial def readLines (input : IO.FS.Stream) (lines : List Text) :
    IO (List Text) := do
  let line ← input.getLine
  if line.isEmpty then return lines.reverse
  readLines input (Text.withoutTerminator line.toList :: lines)

/-- A variable of the environment as a text. -/
def environmentText (name : String) : IO (Option Text) := do
  return (← IO.getEnv name).map Text.ofString

/-- The time of day by the clock of the place. -/
def timeOfDay : IO TimeOfDay := do
  let now ← Std.Time.PlainDateTime.now
  return { hour := now.time.hour.val.toNat, minute := now.time.minute.val.toNat
           second := now.time.second.val.toNat }

/-- All that the program sees of the world, but for the files and the lines that
are typed. -/
def surroundings : IO Command.Environment := do
  let debug ← environmentText "CARET_DEBUG"
  return {
    files := snapshot []
    workingDirectory := Text.ofString (ToString.toString (← IO.currentDir))
    home := (← environmentText "HOME").getD []
    configDirectory := ← environmentText "CARET_CONFIG_DIR"
    noColor := ← environmentText "NO_COLOR"
    debug := !(debug.getD []).isEmpty
    time := ← timeOfDay
    languages
    host := inertHost }

/-- Runs the program and writes what it gives. -/
def perform (arguments : List Text) : IO UInt32 := do
  let env ← surroundings
  let sources := Command.settingsSources env {}
  let paths := sources.globalPath :: sources.projectPath.toList ++ arguments
  let found ← paths.mapM fun path => return (path, ← look path)
  let env := { env with files := snapshot found }
  let events ←
    match Command.Invocation.parse env.files arguments with
    | .ok (.repl ..) =>
        pure ((← readLines (← IO.getStdin) []).map Session.Event.submitted)
    | _ => pure []
  let outcome := Command.run { env with events } arguments
  IO.print (Text.asString outcome.standardOutput)
  IO.eprint (Text.asString outcome.standardError)
  match outcome.ending with
  | .exit status => return status.toUInt32
  | .requested none => return 0
  | .requested (some argument) =>
      IO.eprintln (Text.asString argument)
      return 1
  | .raised fault =>
      IO.eprintln (Text.asString fault.message)
      return 1

end DiagnosticConsole.Main

/-- Runs the program on its arguments. -/
def main (arguments : List String) : IO UInt32 :=
  DiagnosticConsole.Main.perform (arguments.map DiagnosticConsole.Text.ofString)
