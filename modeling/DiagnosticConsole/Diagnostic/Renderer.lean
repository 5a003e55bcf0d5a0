import DiagnosticConsole.Diagnostic.Highlighter
import DiagnosticConsole.Diagnostic.Message
import DiagnosticConsole.Source.Position
import DiagnosticConsole.Terminal.Color
import DiagnosticConsole.Terminal.Width

/-!
# Rendering diagnostics

A diagnostic has a rule with its severity and file, the numbered source line, a
line of carets under the span, and the message below the carets:

    -- Error: <console> ------------------------------------
    1:print(1 +)
               ^
               invalid input

A position that was inlined has, above its rule, one group of three lines for
each position it was inlined at, the farthest first. The message starts under
the first caret unless that would carry a line of it past the page; then all of
its lines move to the left together, as far as need be.
-/

namespace DiagnosticConsole

/-- How diagnostics are drawn. -/
structure Renderer where
  pageWidth : Int := 80
  highlighter : Highlighter := .plain
  palette : Palette := {}
  /-- The longest run of characters that there is memory for. -/
  room : Nat := Text.maxIndex

namespace Renderer

/-- What a header line says. -/
def headline (kind : Text) (file : Option Text) : Text :=
  match file with
  | some path => Text.ofString "-- " ++ kind ++ Text.ofString ": " ++ path ++ [' ']
  | none => Text.ofString "-- " ++ kind ++ [' ']

/-- A rule of so many dashes. -/
def rule (n : Int) : Text := Text.copies n '-'

/-- The dashes behind what a header line says, up to the page width. -/
def ruleLength (kind : Text) (file : Option Text) (pageWidth : Int) : Int :=
  max (pageWidth - Terminal.width (headline kind file)) 0

/-- A header line: what it says, and a rule up to the page width. -/
def headerLine (kind : Text) (file : Option Text) (pageWidth : Int) : Text :=
  headline kind file ++ rule (ruleLength kind file pageWidth)

/-- The lines above the header of what was inlined at a position. -/
def inlinedAt (kind : Text) (pageWidth : Int) (outer : Position) : List Text :=
  [headerLine kind (some outer.file) pageWidth,
   Text.ofString "This location is in code that was inlined at " ++ outer.label
     ++ [':'],
   rule pageWidth]

/-- The header lines of a position before they are painted. -/
def headerLines (kind : Text) (pageWidth : Int) : Option Position → List Text
  | none => [headerLine kind none pageWidth]
  | some position =>
      (position.chain.drop 1).reverse.flatMap (inlinedAt kind pageWidth)
        ++ [headerLine kind (some position.file) pageWidth]

/-- The header of a diagnostic. -/
def header (r : Renderer) (position : Option Position) (kind : Text)
    (pageWidth : Option Int) : List Text :=
  (headerLines kind (pageWidth.getD r.pageWidth) position).map
    (r.palette.paint .blue)

/-- The number in front of a source line. -/
def lineLabel (position : Position) : Text :=
  Text.ofNat position.span.startLine ++ [':']

/-- The numbered source line, and the width of its number. -/
def sourceLine (r : Renderer) (position : Position) : Text × Nat :=
  let label := lineLabel position
  (label ++ r.highlighter.apply (Text.withoutTerminator position.lineContent),
   label.length)

/-- The number of carets under a span on one line. -/
def caretCount (position : Position) : Int :=
  max 1 ((position.span.endColumn : Int) - position.span.startColumn)

/-- The carets under a span: one for each character, at least one, and just one
for a span that goes on past its line. `offset` is the width of what stands in
front of the source line. -/
def columnMarker (r : Renderer) (position : Position) (offset : Int) : Text :=
  let margin := Text.spaces (offset + position.span.startColumn)
  if position.span.isSingleLine then
    margin ++ r.palette.paint .red (Text.copies (caretCount position) '^')
  else r.palette.paint .red (margin ++ ['^'])

/-- The padding that one line of a message allows: none past the first caret,
and none that carries it past the page. -/
def paddingOf (position : Position) (offset pageWidth : Int) (line : Text) : Int :=
  min (max 0 (pageWidth - offset - Terminal.width line))
    (offset + position.span.startColumn)

/-- The least of some integers. -/
def least : Int → List Int → Int
  | n, [] => n
  | n, m :: rest => least (min n m) rest

/-- The padding of a message of at least one line: the least that any of its lines
allows. -/
def padding (position : Position) (offset pageWidth : Int) (line : Text)
    (rest : List Text) : Int :=
  least (paddingOf position offset pageWidth line)
    (rest.map (paddingOf position offset pageWidth))

/-- The lines of a message, all with the same padding. -/
def messageLines (position : Position) (offset pageWidth : Int) :
    List Text → List Text
  | [] => []
  | line :: rest =>
      let margin := Text.spaces (padding position offset pageWidth line rest)
      (line :: rest).map (margin ++ ·)

/-- The message below the carets. -/
def messageBody (r : Renderer) (position : Position) (text : Text) (offset : Int)
    (pageWidth : Option Int) : Text :=
  Text.unlines
    (messageLines position offset (pageWidth.getD r.pageWidth)
      (Text.lineContents text))

/-- A message at a position. Without a position there is only the header and
the text. -/
def render (r : Renderer) (message : Message) (position : Option Position)
    (kind : Option Text) (pageWidth : Option Int) : Block :=
  let header := r.header position (kind.getD message.kind) pageWidth
  match position with
  | none => { header, body := Text.lineContents message.text }
  | some p =>
      let (source, offset) := r.sourceLine p
      let marker := r.columnMarker p offset
      let words := r.messageBody p message.text offset pageWidth
      { header
        body := source :: marker
          :: if words.isEmpty then [] else Text.pieces '\n' words }

/-- The explanation of a message under a banner; nothing if there is none. -/
def renderExplanation (r : Renderer) (message : Message) : Block :=
  match message.explanation? with
  | none => {}
  | some explanation =>
      { header :=
          [[], r.palette.paint .blue (Text.ofString "Explanation"),
           r.palette.paint .blue (Text.ofString "===========")]
        body := Text.pieces '\n' explanation }

end Renderer

end DiagnosticConsole
