import DiagnosticConsole.Editing.Word

/-!
# Requests of the line editor

The line editor asks one thing of several: whether Enter submits the line, which
word is being completed, or under which prompt the next line goes.
-/

namespace DiagnosticConsole

/-- What the line editor wants to know. -/
inductive Purpose where
  | acceptLine
  | complete
  | secondaryPrompt
  deriving DecidableEq, Repr

namespace Purpose

/-- The name of a purpose. -/
def name : Purpose → Text
  | acceptLine => Text.ofString "accept-line"
  | complete => Text.ofString "complete"
  | secondaryPrompt => Text.ofString "secondary-prompt"

/-- The purpose of a name. -/
def ofName (name : Text) : Except Text.UnknownName Purpose :=
  match [acceptLine, complete, secondaryPrompt].find? fun p => p.name = name with
  | some purpose => .ok purpose
  | none => .error ⟨name, Text.ofString "ParseContext"⟩

end Purpose

/-- A line with the cursor in it, and the word at the cursor. -/
structure ParsedLine where
  cursor : Int
  line : Text
  word : Word := .empty
  deriving DecidableEq, Repr

/-- The answer to a request: a parsed line, or to go on under a prompt. -/
inductive Parsed where
  | line (parsed : ParsedLine)
  | breakLine (prompt : Text)
  deriving DecidableEq, Repr

/-- An answer, what was asked about completeness, and what there is to tell. -/
structure Parsing where
  outcome : Except EditFault Parsed
  asked : List Text := []
  notices : List Notice := []

/-- What answers the line editor. -/
structure LineParser where
  tokenizer : Tokenizer
  isIncomplete : CompletenessCheck
  continuationPrompt : Text := []

namespace LineParser

/-- What Enter does. -/
def accept (parser : LineParser) (line : Text) (cursor : Int) : Ruling :=
  decideLine line cursor parser.isIncomplete parser.continuationPrompt

/-- The word at the cursor. -/
def complete (parser : LineParser) (line : Text) (cursor : Int) :
    Except EditFault ParsedLine × List Notice :=
  match locateWord line cursor parser.tokenizer with
  | (.ok word, notices) => (.ok { cursor, line, word }, notices)
  | (.error fault, notices) => (.error fault, notices)

/-- Answers a request. -/
def parse (parser : LineParser) (line : Text) (cursor : Int) :
    Purpose → Parsing
  | .acceptLine =>
      let ruling := parser.accept line cursor
      { asked := ruling.asked
        outcome :=
          match ruling.outcome with
          | .ok .submit => .ok (.line { cursor, line })
          | .ok (.breakLine prompt) => .ok (.breakLine prompt)
          | .error fault => .error fault }
  | .complete =>
      match parser.complete line cursor with
      | (.ok parsed, notices) => { outcome := .ok (.line parsed), notices }
      | (.error fault, notices) => { outcome := .error fault, notices }
  | .secondaryPrompt =>
      { outcome := .ok (.breakLine parser.continuationPrompt) }

end LineParser

end DiagnosticConsole
