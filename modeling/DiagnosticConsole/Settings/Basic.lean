import DiagnosticConsole.Json.Basic
import DiagnosticConsole.Log
import DiagnosticConsole.Text.Quoted

/-!
# Settings

There are seven settings, each with a key, a kind of value and a default. They
are read from the members of a JSON object: a member that is missing or null
leaves the default, and one of the wrong kind does so with a notice.
-/

namespace DiagnosticConsole

/-- All there is to set. -/
structure Settings where
  pageWidth : Int := 80
  prompt : Text := Text.ofString "caret> "
  continuationPrompt : Text := Text.ofString "     | "
  color : Bool := true
  language : Text := Text.ofString "python"
  explain : Bool := false
  debug : Bool := false
  deriving DecidableEq, Repr

namespace Settings

/-- The kinds of values. -/
inductive Kind where
  | integer
  | text
  | flag
  deriving DecidableEq, Repr

namespace Kind

/-- The name of a kind. -/
def name : Kind → Text
  | integer => Text.ofString "int"
  | text => Text.ofString "str"
  | flag => Text.ofString "bool"

/-- The values of a kind. -/
abbrev Value : Kind → Type
  | integer => Int
  | text => Text
  | flag => Bool

/-- The value of a kind that a JSON value is. -/
def ofJson? : (kind : Kind) → Json → Option kind.Value
  | integer, .integer n => some n
  | text, .string t => some t
  | flag, .bool b => some b
  | _, _ => none

/-- A value as JSON. -/
def toJson : (kind : Kind) → kind.Value → Json
  | integer, n => .integer n
  | text, t => .string t
  | flag, b => .bool b

end Kind

/-- The settings by name. -/
inductive Field where
  | pageWidth
  | prompt
  | continuationPrompt
  | color
  | language
  | explain
  | debug
  deriving DecidableEq, Repr

namespace Field

/-- The settings in their order. -/
def all : List Field :=
  [pageWidth, prompt, continuationPrompt, color, language, explain, debug]

/-- The key of a setting. -/
def key : Field → Text
  | pageWidth => Text.ofString "pageWidth"
  | prompt => Text.ofString "prompt"
  | continuationPrompt => Text.ofString "continuationPrompt"
  | color => Text.ofString "color"
  | language => Text.ofString "language"
  | explain => Text.ofString "explain"
  | debug => Text.ofString "debug"

/-- The kind of a setting. -/
abbrev kind : Field → Kind
  | pageWidth => .integer
  | prompt | continuationPrompt | language => .text
  | color | explain | debug => .flag

end Field

/-- The value of a setting. -/
def get (s : Settings) : (field : Field) → field.kind.Value
  | .pageWidth => s.pageWidth
  | .prompt => s.prompt
  | .continuationPrompt => s.continuationPrompt
  | .color => s.color
  | .language => s.language
  | .explain => s.explain
  | .debug => s.debug

/-- The settings with another value for one of them. -/
def set (s : Settings) : (field : Field) → field.kind.Value → Settings
  | .pageWidth, n => { s with pageWidth := n }
  | .prompt, t => { s with prompt := t }
  | .continuationPrompt, t => { s with continuationPrompt := t }
  | .color, b => { s with color := b }
  | .language, t => { s with language := t }
  | .explain, b => { s with explain := b }
  | .debug, b => { s with debug := b }

/-- The notice about a member of the wrong kind. -/
def wrongKind (field : Field) : Notice :=
  .warning
    (Text.ofString "Ignoring setting " ++ Text.quoted field.key
      ++ Text.ofString ": expected " ++ field.kind.name)
    none

/-- The settings with one of them read from the members of an object. -/
def read (members : Table Json) (s : Settings) (field : Field) :
    Settings × List Notice :=
  match Table.get? members field.key with
  | none | some .null => (s, [])
  | some value =>
      match field.kind.ofJson? value with
      | some v => (s.set field v, [])
      | none => (s, [wrongKind field])

/-- The settings with some of them read from the members of an object. -/
def readAll (members : Table Json) (s : Settings) :
    List Field → Settings × List Notice
  | [] => (s, [])
  | field :: rest =>
      let (s', notices) := read members s field
      let (s'', more) := readAll members s' rest
      (s'', notices ++ more)

/-- The settings that the members of an object make of the defaults. -/
def ofMembers (members : Table Json) : Settings × List Notice :=
  readAll members {} Field.all

/-- The settings as the members of an object. -/
def toMembers (s : Settings) : Table Json :=
  Field.all.map fun field => (field.key, field.kind.toJson (s.get field))

end Settings

end DiagnosticConsole
