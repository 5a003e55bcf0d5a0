import DiagnosticConsole.Host.Exception
import DiagnosticConsole.Terminal.Color

/-!
# Notices

What the program has to say about itself goes to a log. A notice is a value;
written out it is a line with the time and a colour. Notices for debugging are
written only if they were asked for.
-/

namespace DiagnosticConsole

/-- A time of day. -/
structure TimeOfDay where
  hour : Nat := 0
  minute : Nat := 0
  second : Nat := 0
  deriving DecidableEq, Repr

/-- The time as it stands in a log line. -/
def TimeOfDay.stamp (time : TimeOfDay) : Text :=
  '[' :: Text.twoDigits time.hour ++ ':' :: Text.twoDigits time.minute
    ++ ':' :: Text.twoDigits time.second ++ [']']

/-- Something to tell about the program itself. -/
inductive Notice where
  | info (message : Text)
  | warning (message : Text) (details : Option Text)
  | debug (message : Text)
  deriving DecidableEq, Repr

namespace Notice

/-- The beginning of a session. -/
def sessionStarted (language : Text) (pageWidth : Int) : Notice :=
  .debug (Text.ofString "Session started (language=" ++ language
    ++ Text.ofString ", page width=" ++ Text.ofInt pageWidth ++ [')'])

/-- The end of a session. -/
def sessionEnded (submitted : Int) : Notice :=
  .debug (Text.ofString "Session ended after " ++ Text.ofInt submitted
    ++ Text.ofString " submitted inputs")

/-- What an ordinary handler makes of an exception that it only tells of. The text is
read whether notices for debugging are wanted or not, so what comes up there comes out
of the handler, as does an exception that it does not catch. -/
def ofException (heading : Text) (e : Exception) : Except Exception Notice :=
  if e.isOrdinary then e.text.map fun text => .debug (heading ++ text)
  else .error e

/-- A line in a style. -/
def styled (style : String) (line : Text) : Text :=
  Escape.sgr style ++ line ++ Color.off ++ ['\n']

/-- Details, each line below the message. -/
def indented (details : Text) : Text :=
  Text.unlines ((Text.pieces '\n' details).map (Text.spaces 11 ++ ·))

/-- A notice as it is written to the log; nothing for debugging unless that was
asked for. -/
def render (time : TimeOfDay) (debugging : Bool) : Notice → Text
  | .info message =>
      styled "34" (time.stamp ++ Text.ofString " [caret] " ++ message)
  | .warning message details =>
      styled "33" (time.stamp ++ Text.ofString " [caret] ⚠ " ++ message)
        ++ match details with
          | some (c :: t) => styled "2" (indented (c :: t))
          | _ => []
  | .debug message =>
      if debugging then
        styled "2" (time.stamp ++ Text.ofString " [debug] " ++ message)
      else []

/-- Notices as they are written to the log. -/
def renderAll (time : TimeOfDay) (debugging : Bool) (notices : List Notice) :
    Text :=
  notices.flatMap (render time debugging)

end Notice

end DiagnosticConsole
