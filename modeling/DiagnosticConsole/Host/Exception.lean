import DiagnosticConsole.Text.Basic

/-!
# Exceptions of the host

The host compiles and runs the input. What goes wrong there reaches the console
as an exception: a name and a text, perhaps an explanation, and the frames of the
code it came through, the outermost first. The family of an exception says which of
the console's handlers it concerns.

The text of an exception is made when it is asked for, by code that may raise in
turn. So reading it has an outcome of its own, and a handler that reads the text of
what it has caught can fail. The name and the explanation come with the class of the
exception and are taken to be readable.
-/

namespace DiagnosticConsole

/-- The exceptions that some handler tells apart. -/
inductive Family where
  /-- A number out of range. -/
  | overflow
  /-- A value that will not do. -/
  | value
  /-- An attribute that is not there. -/
  | missingAttribute
  /-- The request to end the session. -/
  | exit
  /-- Any other that ordinary handlers catch. -/
  | ordinary
  /-- Any other that ordinary handlers let pass. -/
  | fatal
  deriving DecidableEq, Repr

/-- A place in running code. Lines are counted from one; columns are offsets in
the bytes of the line. -/
structure Frame where
  filename : Text
  line : Option Int := none
  endLine : Option Int := none
  column : Option Int := none
  endColumn : Option Int := none
  deriving DecidableEq, Repr

/-- What was raised, whether its text can be read or not. -/
structure Raised where
  name : Text
  /-- What it was raised with. -/
  argument : Option Text := none
  explanation : Option Text := none
  family : Family := .ordinary
  frames : List Frame := []
  deriving DecidableEq, Repr

/-- An exception of the host. -/
structure Exception extends Raised where
  /-- What comes up when its text is read, then what comes up when the text of that
  is read, and so on. -/
  textFaults : List Raised := []
  deriving DecidableEq, Repr

namespace Exception

/-- What reading the text of an exception raises, if it cannot be read. -/
def textFault? (e : Exception) : Option Exception :=
  match e.textFaults with
  | [] => none
  | fault :: rest => some { toRaised := fault, textFaults := rest }

/-- Reads the text of an exception, which is what it was raised with. -/
def text (e : Exception) : Except Exception Text :=
  match e.textFault? with
  | none => .ok (e.argument.getD [])
  | some fault => .error fault

/-- What is shown of an exception in any case. -/
def message (e : Exception) : Text :=
  match e.text with
  | .ok text => text
  | .error _ => Text.ofString "<exception str() failed>"

/-- Tests for an exception that ordinary handlers catch. -/
def isOrdinary (e : Exception) : Bool :=
  match e.family with
  | .exit | .fatal => false
  | _ => true

/-- Tests for an exception that a compiler raises about its input. -/
def isAboutInput (e : Exception) : Bool :=
  match e.family with
  | .overflow | .value => true
  | _ => false

end Exception

/-- Input that is not well formed: what is wrong and where. Lines and offsets are
counted from one. The compiler itself raises it, so it can always be read. -/
structure SyntaxFault where
  message : Option Text := none
  filename : Option Text := none
  line : Option Int := none
  offset : Option Int := none
  endLine : Option Int := none
  endOffset : Option Int := none
  explanation : Option Text := none
  deriving DecidableEq, Repr

namespace SyntaxFault

/-- The part of a path after its last slash. -/
def baseName (path : Text) : Text :=
  ((Text.pieces '/' path).getLast?).getD []

/-- A line number as it is shown: one that does not fit into 64 bits is shown
as minus one. -/
def shownLine (line : Int) : Int :=
  if -0x8000000000000000 ≤ line ∧ line ≤ 0x7FFFFFFFFFFFFFFF then line else -1

/-- The fault with the place it names. -/
def label (fault : SyntaxFault) : Text :=
  let message := fault.message.getD (Text.ofString "None")
  let line := fault.line.map fun n =>
    Text.ofString "line " ++ Text.ofInt (shownLine n)
  match fault.filename.map baseName, line with
  | some name, some line =>
      message ++ Text.ofString " (" ++ name ++ Text.ofString ", " ++ line ++ [')']
  | some name, none => message ++ Text.ofString " (" ++ name ++ [')']
  | none, some line => message ++ Text.ofString " (" ++ line ++ [')']
  | none, none => message

/-- What to say about a fault: its message, or its label if it has none. -/
def text (fault : SyntaxFault) : Text :=
  match fault.message with
  | some (c :: t) => c :: t
  | _ => fault.label

end SyntaxFault

end DiagnosticConsole
