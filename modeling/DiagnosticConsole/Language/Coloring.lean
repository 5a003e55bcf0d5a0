import DiagnosticConsole.Diagnostic.Highlighter
import DiagnosticConsole.Language.Token
import DiagnosticConsole.Terminal.Color
import DiagnosticConsole.Text.LineBreak
import DiagnosticConsole.Text.Newline

/-!
# Colouring source text

The text is given one spelling of the newline, cut into lexemes, and each
lexeme is painted line by line, so that no colour runs over the end of a line.
-/

namespace DiagnosticConsole

namespace Coloring

/-- The styles of the types of tokens. A type that is not listed has that of the
nearest type above it that is. -/
def styles : List (String × List String) :=
  [("Text.Whitespace", ["37"]), ("Comment", ["37"]), ("Comment.Preproc", ["36"]),
   ("Keyword", ["34"]), ("Keyword.Type", ["36"]), ("Operator.Word", ["35"]),
   ("Name.Builtin", ["36"]), ("Name.Function", ["32"]),
   ("Name.Namespace", ["04", "36"]), ("Name.Class", ["04", "32"]),
   ("Name.Exception", ["36"]), ("Name.Decorator", ["90"]),
   ("Name.Variable", ["31"]), ("Name.Constant", ["31"]),
   ("Name.Attribute", ["36"]), ("Name.Tag", ["94"]), ("Literal.String", ["33"]),
   ("Literal.Number", ["34"]), ("Generic.Deleted", ["91"]),
   ("Generic.Inserted", ["32"]), ("Generic.Heading", ["01"]),
   ("Generic.Subheading", ["01", "35"]), ("Generic.Prompt", ["01"]),
   ("Generic.Error", ["91"]), ("Error", ["04", "91"])]

/-- The style listed for just this type. -/
def listed? (path : List Text) : Option (List String) :=
  (styles.find? fun entry => (TokenType.named entry.1).path = path).map Prod.snd

/-- The style of a type: the longest part of its path that is listed. -/
def styleOf? (type : TokenType) : Option (List String) :=
  (List.range (type.path.length + 1)).reverse.findSome? fun n =>
    listed? (type.path.take n)

/-- The sequence that turns a style off. -/
def plainStyle : Text := Escape.sgr "39;49;00"

/-- A line of a lexeme in a style: the line feeds at its end stay outside, as
one. -/
def paintLine (style : List String) (line : Text) : Text :=
  style.flatMap Escape.sgr ++ Text.dropWhileEnd (· = '\n') line ++ plainStyle
    ++ if line.getLast? = some '\n' then ['\n'] else []

/-- A lexeme in the style of its type. -/
def paintLexeme (lexeme : Lexeme) : Text :=
  match styleOf? lexeme.type with
  | some style =>
      (Text.lines lexeme.text).flatMap fun line => paintLine style line.whole
  | none => lexeme.text

/-- The text that a lexer is given. -/
def prepared (t : Text) : Text := Text.normaliseNewlines (Text.withoutMark t)

/-- A text in colours. -/
def paint (lexer : Lexer) (t : Text) : Text :=
  if t.isEmpty then t else (lexer (prepared t)).flatMap paintLexeme

/-- The highlighter of a lexer, plain unless colours are wanted. -/
def highlighter (lexer : Lexer) : Highlighter := .painting (paint lexer)

end Coloring

end DiagnosticConsole
