import DiagnosticConsole.Editing.LineParser

/-!
# The prompt

A prompt turns keys into an input. Typed characters go into the buffer, some
control keys move the cursor or take text away, and Enter does what the line
parser decides: it submits the buffer or breaks the line. No other key submits.
-/

namespace DiagnosticConsole

/-- What Enter did to a buffer: the buffer after it, the decision, and the texts
the completeness check was asked about. Where there is no decision the buffer is
as it was. -/
structure Entered where
  buffer : Buffer
  outcome : Except EditFault Decision
  asked : List Text

/-- Enter in a buffer. -/
def LineParser.enter (parser : LineParser) (b : Buffer) : Entered :=
  let ruling := b.rule parser.isIncomplete parser.continuationPrompt
  { asked := ruling.asked
    outcome := ruling.outcome
    buffer :=
      match ruling.outcome with
      | .ok (.breakLine _) => b.insertText ['\n']
      | _ => b }

namespace Buffer

/-- Takes away the rest of the line, or the line feed if the cursor is at one. -/
def killLine (b : Buffer) : Buffer :=
  match b.tail with
  | '\n' :: _ => b.deleteAfter 1
  | _ => b.deleteAfter b.room

/-- Takes away the line up to the cursor, or the line feed in front of it. -/
def killLineBefore (b : Buffer) : Buffer :=
  if b.column = 0 then b.deleteBefore 1 else b.deleteBefore b.column

/-- How many characters in front of the cursor the last word and the blanks
behind it take; all of them if there is no word. -/
def wordSpan (b : Buffer) : Nat :=
  let backwards := b.head.reverse
  let blanks := (backwards.takeWhile Text.isBlank).length
  let word := ((backwards.drop blanks).takeWhile (!Text.isBlank ·)).length
  if word = 0 then b.cursor else blanks + word

/-- Takes away the word in front of the cursor. -/
def killWord (b : Buffer) : Buffer := b.deleteBefore b.wordSpan

end Buffer

/-- A key, by what it asks for. -/
inductive Key where
  | enter
  | interrupt
  | endOrDelete
  | backspace
  | lineStart
  | lineEnd
  | left
  | right
  | killLine
  | killLineBefore
  | killWord
  | typed (c : Char)
  deriving DecidableEq, Repr

/-- The key of a character. -/
def Key.ofChar : Char → Key
  | '\r' | '\n' => .enter
  | '\x03' => .interrupt
  | '\x04' => .endOrDelete
  | '\x7f' | '\x08' => .backspace
  | '\x01' => .lineStart
  | '\x05' => .lineEnd
  | '\x02' => .left
  | '\x06' => .right
  | '\x0b' => .killLine
  | '\x15' => .killLineBefore
  | '\x17' => .killWord
  | c => .typed c

/-- How a prompt ends. -/
inductive PromptEnd where
  | submitted (text : Text)
  | interrupted
  | endOfSession
  | failed (fault : EditFault)
  deriving DecidableEq, Repr

/-- What a key does to a prompt: edit the buffer or end it. -/
inductive KeyEffect where
  | edited (buffer : Buffer)
  | ended (reason : PromptEnd)
  deriving DecidableEq, Repr

/-- The effect of a key. -/
def LineParser.press (parser : LineParser) (b : Buffer) : Key → KeyEffect
  | .enter =>
      let entered := parser.enter b
      match entered.outcome with
      | .ok .submit => .ended (.submitted entered.buffer.text)
      | .ok (.breakLine _) => .edited entered.buffer
      | .error fault => .ended (.failed fault)
  | .interrupt => .ended .interrupted
  | .endOrDelete =>
      if b.text.isEmpty then .ended .endOfSession else .edited (b.deleteAfter 1)
  | .backspace => .edited (b.deleteBefore 1)
  | .lineStart => .edited (b.moveLeft b.column)
  | .lineEnd => .edited (b.moveRight b.room)
  | .left => .edited (b.moveLeft 1)
  | .right => .edited (b.moveRight 1)
  | .killLine => .edited b.killLine
  | .killLineBefore => .edited b.killLineBefore
  | .killWord => .edited b.killWord
  | .typed c => .edited (b.insertText [c])

/-- Reads keys until the prompt ends; keys that run out end the session. What is
left of the keys comes along. -/
def LineParser.readKeys (parser : LineParser) (b : Buffer) :
    List Key → PromptEnd × List Key
  | [] => (.endOfSession, [])
  | key :: rest =>
      match parser.press b key with
      | .edited b' => parser.readKeys b' rest
      | .ended reason => (reason, rest)

/-- The prompt as the console holds it: keys that were typed and not read yet, and
whether it is closed. -/
structure PromptState where
  parser : LineParser
  pending : List Key := []
  isClosed : Bool := false

/-- A prompt that is closed. -/
inductive PromptFault where
  | closed
  deriving DecidableEq, Repr

/-- The wording for a closed prompt. -/
def PromptFault.message : PromptFault → Text
  | .closed => Text.ofString "ReplTerminal is closed"

namespace PromptState

/-- Types text at a prompt. -/
def typeText (state : PromptState) (t : Text) : PromptState :=
  { state with pending := state.pending ++ t.map Key.ofChar }

/-- Reads the next input. -/
def readLine (state : PromptState) :
    PromptState × Except PromptFault PromptEnd :=
  if state.isClosed then (state, .error .closed)
  else
    let (reason, rest) := state.parser.readKeys .empty state.pending
    ({ state with pending := rest }, .ok reason)

/-- Closes a prompt. -/
def close (state : PromptState) : PromptState := { state with isClosed := true }

end PromptState

end DiagnosticConsole
