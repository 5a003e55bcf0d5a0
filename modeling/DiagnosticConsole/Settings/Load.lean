import DiagnosticConsole.Files.Basic
import DiagnosticConsole.Files.Path
import DiagnosticConsole.Json.Reader
import DiagnosticConsole.Settings.Basic
import DiagnosticConsole.Settings.Merge

/-!
# Where settings come from

Settings are layered: over the defaults lies a file for all projects, over that
a file of the project, and over both what was asked for on this occasion. A file
that is not there, or that does not hold a JSON object, is a layer without
members; where there is a file, a notice says so.
-/

namespace DiagnosticConsole.Settings

/-- The name of a directory of settings. -/
def directoryName : Text := Text.ofString ".caret"

/-- The name of a file of settings. -/
def fileName : Text := Text.ofString "settings.json"

/-- What keeps settings from being loaded at all. -/
inductive LoadFault where
  | path (fault : PathFault) (place : Text)
  | undecodable (fault : Text.Utf8.Fault)
  | integerTooLong (digits : Nat)
  | tooDeep (nesting : Json.Nesting)
  deriving DecidableEq, Repr

/-- The wording of a load fault. -/
def LoadFault.message : LoadFault → Text
  | .path fault place => fault.message place
  | .undecodable fault => fault.message
  | .integerTooLong digits => (Json.ReadFault.integerTooLong digits).message
  | .tooDeep nesting => (Json.ReadFault.tooDeep nesting).message

/-- The notice about a file that cannot be read. -/
def unreadable (path reason : Text) : Notice :=
  .warning (Text.ofString "Error reading settings from " ++ path) (some reason)

/-- The notice about a file that holds something else than an object. -/
def notAnObject (path : Text) : Notice :=
  .warning
    (Text.ofString "Ignoring settings in " ++ path
      ++ Text.ofString ": expected a JSON object")
    none

/-- The members that the text of a file holds. -/
def layerOfText (path text : Text) :
    Except LoadFault (Table Json) × List Notice :=
  match Json.parse text with
  | .ok (.object members) => (.ok members, [])
  | .ok _ => (.ok [], [notAnObject path])
  | .error (.malformed fault) => (.ok [], [unreadable path fault.message])
  | .error (.integerTooLong digits) => (.error (.integerTooLong digits), [])
  | .error (.tooDeep nesting) => (.error (.tooDeep nesting), [])

/-- The members in a file of settings. -/
def layer (files : FileSystem) (path : Text) :
    Except LoadFault (Table Json) × List Notice :=
  match files.kind path with
  | .error fault =>
      if fault.isAbsence then (.ok [], []) else (.error (.path fault path), [])
  | .ok _ =>
      match files.readText path with
      | .ok text => layerOfText path text
      | .error (.path (.system e)) => (.ok [], [unreadable path (e.message path)])
      | .error (.path fault) => (.error (.path fault path), [])
      | .error (.undecodable fault) => (.error (.undecodable fault), [])

/-- Where to look for settings. -/
structure Sources where
  /-- The directory of the file for all projects. -/
  globalDirectory : Text
  /-- The directory of the project, if there is one. -/
  project : Option Text := none
  /-- What was asked for on this occasion. -/
  overrides : Table Json := []
  /-- Colours are off whatever the layers say. -/
  noColor : Bool := false

/-- The directory of the file for all projects: the one given, or that of the
environment, or the one in the home directory. -/
def globalDirectory (given environment : Option Text) (home : Text) : Text :=
  match given, environment with
  | some directory, _ => directory
  | none, some directory => directory
  | none, none => Path.below home [directoryName]

/-- The path of the file for all projects. -/
def Sources.globalPath (sources : Sources) : Text :=
  Path.below sources.globalDirectory [fileName]

/-- The path of the file of the project, if there is one. -/
def Sources.projectPath (sources : Sources) : Option Text :=
  sources.project.map fun directory =>
    Path.below directory [directoryName, fileName]

/-- The layer of a file that need not be named; one without members if it is
not. -/
def layer? (files : FileSystem) :
    Option Text → Except LoadFault (Table Json) × List Notice
  | none => (.ok [], [])
  | some path => layer files path

/-- The settings with colours off if they are not wanted at all. -/
def withoutColor (noColor : Bool) (s : Settings) : Settings :=
  if noColor then { s with color := false } else s

/-- Loads the settings. -/
def load (files : FileSystem) (sources : Sources) :
    Except LoadFault Settings × List Notice :=
  match layer files sources.globalPath with
  | (.error fault, notices) => (.error fault, notices)
  | (.ok globalMembers, notices) =>
      match layer? files sources.projectPath with
      | (.error fault, more) => (.error fault, notices ++ more)
      | (.ok projectMembers, more) =>
          let (settings, further) :=
            ofMembers
              (merge (merge globalMembers projectMembers) sources.overrides)
          (.ok (withoutColor sources.noColor settings),
            notices ++ more ++ further)

end DiagnosticConsole.Settings
