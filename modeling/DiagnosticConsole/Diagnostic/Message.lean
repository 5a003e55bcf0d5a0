import DiagnosticConsole.Text.LineBreak

/-!
# Messages and blocks

A message is what there is to say; a block is the lines that say it.
-/

namespace DiagnosticConsole

/-- A text with the label of its severity and perhaps an explanation. -/
structure Message where
  text : Text
  kind : Text := Text.ofString "Error"
  explanation : Option Text := none
  deriving DecidableEq, Repr

/-- The explanation of a message, if it has one that is not empty. -/
def Message.explanation? (message : Message) : Option Text :=
  match message.explanation with
  | some (c :: t) => some (c :: t)
  | _ => none

/-- Printable lines, those of the header first. -/
structure Block where
  header : List Text := []
  body : List Text := []
  deriving DecidableEq, Repr

namespace Block

/-- The lines of a block. -/
def lines (block : Block) : List Text := block.header ++ block.body

/-- The lines of a block as one text. -/
def text (block : Block) : Text := Text.unlines block.lines

end Block

end DiagnosticConsole
