import DiagnosticConsole.Editing.Buffer
import DiagnosticConsole.Host.Exception

/-!
# What Enter does

Enter submits the buffer if nothing but blanks follows the cursor and the text
is complete; else it breaks the line. Whether a text is complete is asked only
when the cursor is at the end, and then once.
-/

namespace DiagnosticConsole

/-- Tells whether a text cannot be complete yet. -/
abbrev CompletenessCheck := Text → Except Exception Bool

/-- What Enter does: submit the buffer, or break the line and go on under a
prompt. -/
inductive Decision where
  | submit
  | breakLine (prompt : Text)
  deriving DecidableEq, Repr

/-- Why there is no answer to a request of the line editor. -/
inductive EditFault where
  | cursor (fault : CursorFault)
  /-- A cursor past the end, which the editor has no document for. -/
  | pastEnd (fault : CursorFault)
  | host (e : Exception)
  deriving DecidableEq, Repr

namespace EditFault

/-- The wording of an edit fault. -/
def message : EditFault → Text
  | cursor fault => fault.message
  | pastEnd fault =>
      Text.ofString "cursor_position=" ++ Text.ofInt fault.cursor
        ++ Text.ofString ", len_text=" ++ Text.ofNat fault.length
  | host e => e.message

/-- The exception behind an edit fault, if there is one. -/
def exception? : EditFault → Option Exception
  | cursor _ | pastEnd _ => none
  | host e => some e

end EditFault

/-- The document of the editor for a text and a cursor. -/
def Buffer.document? (text : Text) (cursor : Int) : Except EditFault Buffer :=
  match Buffer.at? text cursor with
  | .ok b => .ok b
  | .error fault =>
      if (text.length : Int) < cursor then .error (.pastEnd fault)
      else .error (.cursor fault)

/-- A decision, and the texts about which the completeness check was asked. -/
structure Ruling where
  outcome : Except EditFault Decision
  asked : List Text

/-- What Enter does in a buffer. -/
def Buffer.rule (b : Buffer) (isIncomplete : CompletenessCheck) (prompt : Text) :
    Ruling :=
  if b.isAtEnd then
    { asked := [b.text]
      outcome :=
        match isIncomplete b.text with
        | .ok true => .ok (.breakLine prompt)
        | .ok false => .ok .submit
        | .error e => .error (.host e) }
  else { asked := [], outcome := .ok (.breakLine prompt) }

/-- What Enter does in a text with the cursor at an offset. -/
def decideLine (text : Text) (cursor : Int) (isIncomplete : CompletenessCheck)
    (prompt : Text) : Ruling :=
  match Buffer.at? text cursor with
  | .ok b => b.rule isIncomplete prompt
  | .error fault => { asked := [], outcome := .error (.cursor fault) }

end DiagnosticConsole
