import DiagnosticConsole.Terminal.Escape

/-!
# Colours

Painting puts a text between the sequence that turns a colour on and the one
that turns all colours off. A palette that is off leaves texts alone, and an
empty text is never painted.
-/

namespace DiagnosticConsole

/-- The sequence with the given parameters that sets the style of the text. -/
def Escape.sgr (parameters : String) : Text :=
  Escape.esc :: '[' :: Text.ofString parameters ++ ['m']

/-- The colours of diagnostics. -/
inductive Color where
  | red
  | yellow
  | blue
  deriving DecidableEq, Repr

namespace Color

/-- The sequence that turns a colour on. -/
def on : Color → Text
  | red => Escape.sgr "31"
  | yellow => Escape.sgr "33"
  | blue => Escape.sgr "34"

/-- The sequence that turns all colours off. -/
def off : Text := Escape.sgr "0"

end Color

/-- Whether texts are painted. -/
structure Palette where
  enabled : Bool := true
  deriving DecidableEq, Repr

/-- A text in a colour. -/
def Palette.paint (palette : Palette) (color : Color) (t : Text) : Text :=
  if !palette.enabled || t.isEmpty then t else color.on ++ t ++ Color.off

end DiagnosticConsole
