import DiagnosticConsole.Language.Coloring
import DiagnosticConsole.Language.Mini

/-!
# Languages

A language is known by the name of its lexer.
-/

namespace DiagnosticConsole

/-- The lexers by the names of their languages. -/
abbrev Languages := Text → Option Lexer

/-- A language that has no lexer. -/
structure UnknownLanguage where
  name : Text
  deriving DecidableEq, Repr

/-- The wording for an unknown language. -/
def UnknownLanguage.message (unknown : UnknownLanguage) : Text :=
  Text.ofString "no lexer for alias " ++ Text.quoted unknown.name
    ++ Text.ofString " found"

namespace Languages

/-- The lexer of a language. -/
def lexer (languages : Languages) (name : Text) : Except UnknownLanguage Lexer :=
  match languages name with
  | some lexer => .ok lexer
  | none => .error ⟨name⟩

/-- The highlighter of a language. Where no colours are wanted it is the plain
one, and the language need not be known. -/
def highlighter (languages : Languages) (name : Text) (enabled : Bool) :
    Except UnknownLanguage Highlighter :=
  if enabled then
    match languages.lexer name with
    | .ok lexer => .ok (Coloring.highlighter lexer)
    | .error unknown => .error unknown
  else .ok .plain

end Languages

end DiagnosticConsole
