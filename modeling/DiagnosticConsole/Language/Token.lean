import DiagnosticConsole.Language.TokenType
import DiagnosticConsole.Text.Choice

/-!
# Lexemes and tokens

A lexer cuts a text into lexemes. What the line editor sees of them are tokens:
where each begins and ends and whether it is an identifier, a keyword or
something else. Empty lexemes are no tokens, and a lexeme that is no part of the
language either ends the list with a fault or, where problems are not wanted, is
a token like any other.
-/

namespace DiagnosticConsole

/-- A piece of text and its type, as a lexer gives it. -/
structure Lexeme where
  start : Int
  type : TokenType
  text : Text
  deriving DecidableEq, Repr

/-- What cuts a text into lexemes. -/
abbrev Lexer := Text → List Lexeme

/-- What the line editor tells apart. -/
inductive TokenClass where
  | identifier
  | keyword
  | other
  deriving DecidableEq, Repr

namespace TokenClass

/-- The name of a class. -/
def name : TokenClass → Text
  | identifier => Text.ofString "identifier"
  | keyword => Text.ofString "keyword"
  | other => Text.ofString "other"

/-- The class of a name. -/
def ofName (name : Text) : Except Text.UnknownName TokenClass :=
  match [identifier, keyword, other].find? fun kind => kind.name = name with
  | some kind => .ok kind
  | none => .error ⟨name, Text.ofString "TokenClass"⟩

/-- The class of a type of tokens. -/
def ofType (type : TokenType) : TokenClass :=
  if type.isIn .name then identifier
  else if type.isIn .keyword then keyword
  else other

end TokenClass

/-- A stretch of text from one offset up to another. -/
structure Token where
  start : Int
  stop : Int
  kind : TokenClass := .other
  deriving DecidableEq, Repr

namespace Token

/-- Tests for a token that may be completed: a keyword may be the beginning of
an identifier. -/
def isCompletable (token : Token) : Bool :=
  match token.kind with
  | .identifier | .keyword => true
  | .other => false

/-- Tests whether an offset is in a token or at one of its ends. -/
def touches (token : Token) (offset : Int) : Bool :=
  token.start ≤ offset && offset ≤ token.stop

/-- The token of a lexeme. -/
def ofLexeme (lexeme : Lexeme) : Token where
  start := lexeme.start
  stop := lexeme.start + lexeme.text.length
  kind := TokenClass.ofType lexeme.type

end Token

/-- A lexeme that is no part of the language. -/
structure TokenizeFault where
  offset : Int
  text : Text
  deriving DecidableEq, Repr

/-- The wording of a tokenize fault. -/
def TokenizeFault.message (fault : TokenizeFault) : Text :=
  Text.ofString "Unexpected " ++ Text.quoted fault.text
    ++ Text.ofString " at offset " ++ Text.ofInt fault.offset

/-- The tokens of lexemes; `suppress` lets those pass that are no part of the
language. -/
def tokensOf (suppress : Bool) : List Lexeme → Except TokenizeFault (List Token)
  | [] => .ok []
  | lexeme :: rest =>
      if lexeme.text.isEmpty then tokensOf suppress rest
      else if lexeme.type.isIn .error && !suppress then
        .error ⟨lexeme.start, lexeme.text⟩
      else
        match tokensOf suppress rest with
        | .ok tokens => .ok (Token.ofLexeme lexeme :: tokens)
        | .error fault => .error fault

end DiagnosticConsole
