import DiagnosticConsole.Text.Basic

/-!
# Types of tokens

The types of tokens form a tree. A type is the path from the root to it, so it
lies under another type if it extends that type's path.
-/

namespace DiagnosticConsole

/-- A type of tokens as the path from the root. -/
structure TokenType where
  path : List Text
  deriving DecidableEq, Repr

namespace TokenType

/-- The type one step further down. Directly below the root, some names stand
for types elsewhere: the root itself and the types of literals. -/
def child (parent : TokenType) (name : Text) : TokenType :=
  if parent.path.isEmpty then
    if name = Text.ofString "Token" then parent
    else if name = Text.ofString "String" || name = Text.ofString "Number" then
      ⟨[Text.ofString "Literal", name]⟩
    else ⟨[name]⟩
  else ⟨parent.path ++ [name]⟩

/-- The type of a dotted name. -/
def ofName (name : Text) : TokenType :=
  if name.isEmpty then ⟨[]⟩ else (Text.pieces '.' name).foldl child ⟨[]⟩

/-- The type of a dotted name that is a literal. -/
def named (name : String) : TokenType := ofName (Text.ofString name)

/-- Tests whether a type is another one or lies under it. -/
def isIn (type ancestor : TokenType) : Bool :=
  ancestor.path.isPrefixOf type.path

/-- The names of things. -/
def name : TokenType := ⟨[Text.ofString "Name"]⟩

/-- The words of a language. -/
def keyword : TokenType := ⟨[Text.ofString "Keyword"]⟩

/-- What is no part of a language. -/
def error : TokenType := ⟨[Text.ofString "Error"]⟩

end TokenType

end DiagnosticConsole
