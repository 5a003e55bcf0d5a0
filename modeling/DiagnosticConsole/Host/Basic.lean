import DiagnosticConsole.Host.Exception
import DiagnosticConsole.Table

/-!
# The host

The host is the language that the console is for. The console asks it to compile
texts and to tell the attributes of objects; all it knows of either is in this
module. A host may answer differently each time it is asked, since every
request of a session has a name of its own.
-/

namespace DiagnosticConsole

/-- An object as far as completion sees it: its attributes in order, what it calls
itself when it lacks one, and what goes wrong when it is read or listed. -/
structure HostObject where
  attributes : List (Text × HostObject) := []
  title : Option Text := none
  readFault : Option Exception := none
  listFault : Option Exception := none
  deriving Inhabited

/-- What a text is compiled as: one input of the console, or a whole file. -/
inductive Mode where
  | single
  | file
  deriving DecidableEq, Repr

/-- A text to compile, and the name under which frames will refer to it. -/
structure CompileRequest where
  text : Text
  filename : Text
  mode : Mode
  deriving DecidableEq, Repr

/-- Why a text does not compile. -/
inductive CompileFault where
  | invalid (fault : SyntaxFault)
  | raised (e : Exception)
  deriving DecidableEq, Repr

/-- What running code does: the names it binds, in order, and what it raises
after that. -/
structure Execution where
  bindings : List (Text × HostObject) := []
  raised : Option Exception := none

/-- Compiled code, which may turn out to be but the beginning of a statement. -/
structure Code where
  isUnfinished : Bool := false
  execution : Execution := {}

/-- The language that the console is for. -/
structure Host where
  compile : CompileRequest → Except CompileFault Code
  /-- The objects that are always there. -/
  builtins : HostObject
  /-- What the name of the session's module is bound to. -/
  moduleName : HostObject
  /-- The longest run of characters that there is memory for. -/
  room : Nat := Text.maxIndex

/-- A fault that the console reports, rather than let it pass. -/
def CompileFault.isReported : CompileFault → Bool
  | .invalid _ => true
  | .raised e => e.isAboutInput

namespace HostObject

/-- What is said of an attribute that an object lacks. -/
def lacks (object : HostObject) (name : Text) : Text :=
  match object.title with
  | none => Text.ofString "no attribute " ++ name
  | some title =>
      title ++ Text.ofString " has no attribute '" ++ name ++ ['\x27']

/-- Reads an attribute. -/
def read (object : HostObject) (name : Text) : Except Exception HostObject :=
  match Table.get? object.attributes name with
  | none =>
      .error
        { name := Text.ofString "AttributeError"
          argument := some (object.lacks name)
          family := .missingAttribute }
  | some part =>
      match part.readFault with
      | some e => .error e
      | none => .ok part

/-- Lists the names of the attributes, in the order of code points. -/
def list (object : HostObject) : Except Exception (List Text) :=
  match object.listFault with
  | some e => .error e
  | none => .ok (Text.distinctInOrder (Table.keys object.attributes))

end HostObject

end DiagnosticConsole
