import DiagnosticConsole.Diagnostic.Renderer

/-!
# How much can be drawn

A diagnostic repeats characters: dashes up to the page width, spaces up to a
column, a caret for each character. How often comes from settings and from the
host, and has no bound there; but a run of characters has to have a length that
is an index, and memory to be held in. How long a run memory holds is for the
renderer to say. So a diagnostic is drawn only if each of its runs can be, and the
first that cannot tells why there is none.
-/

namespace DiagnosticConsole

/-- Why a run of characters cannot be drawn. -/
inductive ExtentFault where
  /-- Its length is not an index. -/
  | beyondIndex
  /-- There is no memory for it. -/
  | beyondMemory
  deriving DecidableEq, Repr

namespace ExtentFault

/-- The wording of a fault. -/
def message : ExtentFault → Text
  | beyondIndex => Text.ofString "cannot fit 'int' into an index-sized integer"
  | beyondMemory => []

end ExtentFault

namespace Extent

/-- The first length that is past all indexes, which are signed numbers of 64
bits. -/
def pastIndexes : Int := 0x8000000000000000

/-- Tests whether a run of a length can be drawn where there is room for so many
characters. A negative length is an empty run. -/
def check (room : Nat) (length : Int) : Except ExtentFault Unit :=
  if length < -pastIndexes ∨ pastIndexes ≤ length then
    .error .beyondIndex
  else if room < length then .error .beyondMemory
  else .ok ()

/-- Tests whether runs of these lengths can be drawn, one after the other. -/
def checkAll (room : Nat) : List Int → Except ExtentFault Unit
  | [] => .ok ()
  | length :: rest =>
      match check room length with
      | .ok () => checkAll room rest
      | .error fault => .error fault

/-- A drawing, which is made only if its runs can be drawn. -/
@[macro_inline] def drawn {α : Type} (room : Nat) (lengths : List Int)
    (drawing : α) : Except ExtentFault α :=
  match checkAll room lengths with
  | .ok () => .ok drawing
  | .error fault => .error fault

end Extent

namespace Renderer

/-- The runs above the header of what was inlined at a position. -/
def inlinedRuns (kind : Text) (pageWidth : Int) (outer : Position) : List Int :=
  [ruleLength kind (some outer.file) pageWidth, max pageWidth 0]

/-- The runs of a header, in the order of its lines. -/
def headerRuns (kind : Text) (pageWidth : Int) : Option Position → List Int
  | none => [ruleLength kind none pageWidth]
  | some position =>
      (position.chain.drop 1).reverse.flatMap (inlinedRuns kind pageWidth)
        ++ [ruleLength kind (some position.file) pageWidth]

/-- The runs of the line of carets. -/
def markerRuns (position : Position) (offset : Int) : List Int :=
  let margin := offset + position.span.startColumn
  if position.span.isSingleLine then [margin, caretCount position] else [margin]

/-- The runs in front of the lines of a message. -/
def messageRuns (position : Position) (offset pageWidth : Int) :
    List Text → List Int
  | [] => []
  | line :: rest => [padding position offset pageWidth line rest]

/-- The runs of a diagnostic. -/
def runs (r : Renderer) (message : Message) (position : Option Position)
    (kind : Option Text) (pageWidth : Option Int) : List Int :=
  let width := pageWidth.getD r.pageWidth
  headerRuns (kind.getD message.kind) width position
    ++ match position with
      | none => []
      | some p =>
          let offset := (lineLabel p).length
          markerRuns p offset
            ++ messageRuns p offset width (Text.lineContents message.text)

/-- A header line, if it can be drawn. -/
def headerLine? (room : Nat) (kind : Text) (file : Option Text)
    (pageWidth : Int) : Except ExtentFault Text :=
  Extent.drawn room [ruleLength kind file pageWidth]
    (headerLine kind file pageWidth)

/-- The header of a diagnostic, if it can be drawn. -/
def header? (r : Renderer) (position : Option Position) (kind : Text)
    (pageWidth : Option Int) : Except ExtentFault (List Text) :=
  Extent.drawn r.room (headerRuns kind (pageWidth.getD r.pageWidth) position)
    (r.header position kind pageWidth)

/-- The carets under a span, if they can be drawn. -/
def columnMarker? (r : Renderer) (position : Position) (offset : Int) :
    Except ExtentFault Text :=
  Extent.drawn r.room (markerRuns position offset) (r.columnMarker position offset)

/-- The message below the carets, if it can be drawn. -/
def messageBody? (r : Renderer) (position : Position) (text : Text) (offset : Int)
    (pageWidth : Option Int) : Except ExtentFault Text :=
  Extent.drawn r.room
    (messageRuns position offset (pageWidth.getD r.pageWidth)
      (Text.lineContents text))
    (r.messageBody position text offset pageWidth)

/-- A message at a position, if it can be drawn. -/
def render? (r : Renderer) (message : Message) (position : Option Position)
    (kind : Option Text) (pageWidth : Option Int) : Except ExtentFault Block :=
  Extent.drawn r.room (r.runs message position kind pageWidth)
    (r.render message position kind pageWidth)

end Renderer

end DiagnosticConsole
