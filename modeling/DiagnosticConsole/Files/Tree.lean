import DiagnosticConsole.Files.Basic
import DiagnosticConsole.Files.Path
import DiagnosticConsole.Table

/-!
# File systems held in memory

A directory is a table of entries. A path is followed part by part from the
root; the directories on the way are kept, so that it may also go up again. Above
the root there is but the root.
-/

namespace DiagnosticConsole

open DiagnosticConsole.Text (Bytes)

/-- A file or a directory with what is in it. -/
inductive Entry where
  | file (bytes : Bytes)
  | directory (entries : List (Text × Entry))
  deriving Inhabited

namespace Entry

/-- A directory with nothing in it. -/
def emptyDirectory : Entry := .directory []

/-- What an entry is. -/
def kind : Entry → FileKind
  | file _ => .file
  | directory _ => .directory

/-- The entry of a name in a directory. -/
def get? : Entry → Text → Option Entry
  | file _, _ => none
  | directory entries, name => Table.get? entries name

/-- Puts an entry at a place below a directory and makes the directories on the
way. A file on the way stays as it is. -/
def insert (root : Entry) : List Text → Entry → Entry
  | [], entry =>
      match root, entry with
      | .directory _, .directory [] => root
      | _, _ => entry
  | name :: rest, entry =>
      match root with
      | .file bytes => .file bytes
      | .directory entries =>
          .directory (Table.insert entries name
            (insert ((Table.get? entries name).getD emptyDirectory) rest entry))

/-- Follows the parts of a path from an entry; `above` are the directories the
entry is in, from the inside out. -/
def walk (above : List Entry) (here : Entry) : List Text → Except OsError Entry
  | [] => .ok here
  | part :: rest =>
      match here with
      | .file _ => .error .notDirectory
      | .directory entries =>
          if part.isEmpty || part = ['.'] then walk above here rest
          else if part = ['.', '.'] then
            match above with
            | [] => walk [] here rest
            | outer :: more => walk more outer rest
          else if Path.exceeds Path.maxNameBytes part then .error .nameTooLong
          else
            match Table.get? entries part with
            | none => .error .noSuchFile
            | some entry => walk (here :: above) entry rest

end Entry

/-- A tree of entries, and the names that lead from its root to the working
directory. -/
structure Tree where
  root : Entry
  workingDirectory : List Text

namespace Tree

/-- The names on the way from the root to a path. -/
def namesTo (tree : Tree) (path : Text) : List Text :=
  let names := Text.pieces '/' path
  if path.head? = some '/' then names else tree.workingDirectory ++ names

/-- The entry at a path. The empty path leads nowhere. -/
def find (tree : Tree) (path : Text) : Except PathFault Entry :=
  if path.contains '\x00' then .error .nullCharacter
  else if path.isEmpty then .error (.system .noSuchFile)
  else if Path.exceeds Path.maxBytes path then .error (.system .nameTooLong)
  else
    match tree.root.walk [] (tree.namesTo path) with
    | .ok entry => .ok entry
    | .error e => .error (.system e)

/-- The tree as a file system. -/
def fileSystem (tree : Tree) : FileSystem where
  kind path := (tree.find path).map Entry.kind
  read path :=
    match tree.find path with
    | .error fault => .error fault
    | .ok (.file bytes) => .ok bytes
    | .ok (.directory _) => .error (.system .isDirectory)

end Tree

end DiagnosticConsole
