import DiagnosticConsole.Text.Newline
import DiagnosticConsole.Text.Quoted
import DiagnosticConsole.Text.Utf8

/-!
# Files

All that the program knows of a file system is two questions: what there is at a
path, and the bytes of the file there. Either may fail with an error of the
operating system, and neither can be asked about a path with a null character.
-/

namespace DiagnosticConsole

open DiagnosticConsole.Text (Bytes)

/-- An error of the operating system: its number and what it says. -/
structure OsError where
  number : Nat
  reason : Text
  deriving DecidableEq, Repr

namespace OsError

/-- There is nothing at a path. -/
def noSuchFile : OsError := ⟨2, Text.ofString "No such file or directory"⟩

/-- A path goes on past something that is no directory. -/
def notDirectory : OsError := ⟨20, Text.ofString "Not a directory"⟩

/-- A directory stands where a file should. -/
def isDirectory : OsError := ⟨21, Text.ofString "Is a directory"⟩

/-- A path or one of its names has more bytes than the system takes. -/
def nameTooLong : OsError := ⟨36, Text.ofString "File name too long"⟩

/-- The wording of an error at a path. -/
def message (e : OsError) (path : Text) : Text :=
  Text.ofString "[Errno " ++ Text.ofNat e.number ++ Text.ofString "] " ++ e.reason
    ++ Text.ofString ": " ++ Text.quoted path

/-- The errors that mean that there is nothing at a path: besides the two above,
a bad descriptor and too many links. -/
def isAbsence (e : OsError) : Bool :=
  e.number = 2 || e.number = 20 || e.number = 9 || e.number = 40

end OsError

/-- Why there is no answer to a question about a path. -/
inductive PathFault where
  | system (e : OsError)
  /-- The path has a null character in it. -/
  | nullCharacter
  deriving DecidableEq, Repr

namespace PathFault

/-- The wording of a fault at a path. -/
def message (path : Text) : PathFault → Text
  | system e => e.message path
  | nullCharacter => Text.ofString "embedded null byte"

/-- The faults that mean that there is nothing at a path. -/
def isAbsence : PathFault → Bool
  | system e => e.isAbsence
  | nullCharacter => true

end PathFault

/-- What there may be at a path. -/
inductive FileKind where
  | file
  | directory
  deriving DecidableEq, Repr

/-- A file system. -/
structure FileSystem where
  kind : Text → Except PathFault FileKind
  read : Text → Except PathFault Bytes

/-- Why a file has no text. -/
inductive TextFault where
  | path (fault : PathFault)
  | undecodable (fault : Text.Utf8.Fault)
  deriving DecidableEq, Repr

/-- The wording for a file at a path that has no text. -/
def TextFault.message (path : Text) : TextFault → Text
  | .path fault => fault.message path
  | .undecodable fault => fault.message

/-- The text of a file, with one spelling of the newline. -/
def FileSystem.readText (files : FileSystem) (path : Text) :
    Except TextFault Text :=
  match files.read path with
  | .error fault => .error (.path fault)
  | .ok bytes =>
      match Text.Utf8.decode bytes with
      | .error fault => .error (.undecodable fault)
      | .ok t => .ok (Text.normaliseNewlines t)

end DiagnosticConsole
