import DiagnosticConsole.Editing.Acceptance
import DiagnosticConsole.Language.Token
import DiagnosticConsole.Log

/-!
# The word at the cursor

The word to complete is the first identifier or keyword that the cursor is in or
at an end of. A tokenizer may fail, at once or after some tokens; a token in
front of the failure counts, and else there is no word, unless the failure cannot be
told of.
-/

namespace DiagnosticConsole

/-- Tokens one after the other, and what comes in place of more of them. -/
structure TokenStream where
  tokens : List Token
  failure : Option Exception := none

/-- What cuts a text into tokens for the line editor. -/
abbrev Tokenizer := Text → TokenStream

/-- The tokenizer of a lexer, which lets pass what is no part of the language. -/
def Tokenizer.ofLexer (lexer : Lexer) : Tokenizer := fun text =>
  { tokens := (tokensOf true (lexer text)).toOption.getD [] }

/-- A word and the offset of the cursor in it. -/
structure Word where
  text : Text := []
  cursor : Int := 0
  deriving DecidableEq, Repr

namespace Word

/-- No word at all. -/
def empty : Word := {}

/-- The part of the word in front of the cursor. -/
def typed (word : Word) : Text := Text.before word.text word.cursor

/-- The word that a token makes of a text. -/
def ofToken (text : Text) (cursor : Int) (token : Token) : Word where
  text := Text.slice text token.start token.stop
  cursor := cursor - token.start

end Word

/-- The word at a place of a text. -/
def locateWord (text : Text) (cursor : Int) (tokenizer : Tokenizer) :
    Except EditFault Word × List Notice :=
  match Buffer.at? text cursor with
  | .error fault => (.error (.cursor fault), [])
  | .ok _ =>
      let stream := tokenizer text
      match stream.tokens.find? fun token =>
          token.isCompletable && token.touches cursor with
      | some token => (.ok (Word.ofToken text cursor token), [])
      | none =>
          match stream.failure with
          | none => (.ok .empty, [])
          | some e =>
              match Notice.ofException
                  (Text.ofString "Completion tokenizer failed: ") e with
              | .ok notice => (.ok .empty, [notice])
              | .error escaping => (.error (.host escaping), [])

end DiagnosticConsole
