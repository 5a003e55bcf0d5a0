import DiagnosticConsole.Language.Token

/-!
# A small lexer

The lexer of a small language of words, numbers, strings and comments. At each
place the first kind of lexeme that fits there is taken, as long as it goes; a
character that fits none is a lexeme of its own, marked as an error. So the
lexemes put together are the text.
-/

namespace DiagnosticConsole.Mini

/-- The blanks of the language. -/
def isBlank (c : Char) : Bool :=
  c = ' ' || c = '\t' || c = '\r' || c = '\n' || c = '\x0c' || c = '\x0b'

/-- What a word starts with: letters of English, the underscore, and all that is
not ASCII. -/
def isWordStart (c : Char) : Bool := c.isAlpha || c = '_' || c.toNat ≥ 0x80

/-- What a word goes on with. -/
def isWordPart (c : Char) : Bool := isWordStart c || c.isDigit

/-- Signs that are operators. -/
def operators : Text := Text.ofString "-+*/%=<>!&|^~."

/-- Signs that are punctuation. -/
def punctuation : Text :=
  ['(', ')', '[', ']', '\x7b', '\x7d', ',', ':', ';']

/-- The words with a meaning of their own. -/
def reserved : List (String × List String) :=
  [("Keyword", ["def", "if", "val", "import", "return"]),
   ("Keyword.Constant", ["True", "False", "None"]),
   ("Operator.Word", ["and", "or", "not", "in"]),
   ("Name.Builtin", ["print", "len"]),
   ("Name.Builtin.Pseudo", ["self"])]

/-- The type of a word. -/
def wordType (word : Text) : TokenType :=
  match reserved.find? fun entry => entry.2.any fun w => Text.ofString w = word with
  | some entry => .named entry.1
  | none => .name

/-- How many characters a string takes behind its opening quote, if it ends on
its line. A backslash takes the character after it along. -/
def stringRest? : Text → Option Nat
  | [] => none
  | '"' :: _ => some 1
  | ['\\'] => none
  | '\\' :: c :: rest => if c = '\n' then none else (stringRest? rest).map (· + 2)
  | c :: rest => if c = '\n' then none else (stringRest? rest).map (· + 1)

/-- The length of the run at the start of a text. -/
def run (p : Char → Bool) (t : Text) : Nat := (t.takeWhile p).length

/-- The lexeme at a character: its type, and how many of the characters behind
belong to it. -/
def scan (c : Char) (rest : Text) : TokenType × Nat :=
  if isBlank c then (.named "Text.Whitespace", run isBlank rest)
  else if c = '\x23' then (.named "Comment.Single", run (· ≠ '\n') rest)
  else if c = '"' then
    match stringRest? rest with
    | some n => (.named "Literal.String.Double", n)
    | none => (.error, 0)
  else if c.isDigit then (.named "Literal.Number.Integer", run Char.isDigit rest)
  else if c = '@' then
    match rest with
    | d :: _ =>
        if isWordStart d then (.named "Name.Decorator", run isWordPart rest)
        else (.error, 0)
    | [] => (.error, 0)
  else if isWordStart c then
    let more := run isWordPart rest
    (wordType (c :: rest.take more), more)
  else if operators.contains c then (.named "Operator", 0)
  else if punctuation.contains c then (.named "Punctuation", 0)
  else (.error, 0)

/-- The lexemes of what follows an offset, where `skip` characters still belong
to the lexeme before. -/
def lexemesFrom : Nat → Nat → Text → List Lexeme
  | _, _, [] => []
  | offset, skip + 1, _ :: rest => lexemesFrom (offset + 1) skip rest
  | offset, 0, c :: rest =>
      let (type, more) := scan c rest
      ⟨offset, type, c :: rest.take more⟩ :: lexemesFrom (offset + 1) more rest

/-- The lexemes of a text. -/
def lexer : Lexer := lexemesFrom 0 0

end DiagnosticConsole.Mini
