import DiagnosticConsole.Diagnostic.Extent

/-!
# Reporting

A reporter writes blocks one after the other and counts the errors and warnings
among the messages it reports. It is a value: `written` holds all it has
written so far, and an operation returns the reporter after it.
-/

namespace DiagnosticConsole

/-- A count with its noun, in the plural unless the count is one. -/
def countString (count : Int) (label : Text) : Text :=
  Text.ofInt count ++ [' '] ++ label ++ if count = 1 then [] else ['s']

/-- What has been written and counted. -/
structure Reporter where
  renderer : Renderer
  explain : Bool := false
  errors : Nat := 0
  warnings : Nat := 0
  written : Text := []

namespace Reporter

/-- Tests for an error since the last reset. -/
def hasErrors (r : Reporter) : Bool := r.errors > 0

/-- Writes a block, unless it has no lines. What is written to is taken never to
fail. -/
def printBlock (r : Reporter) (block : Block) : Reporter :=
  if block.lines.isEmpty then r
  else { r with written := r.written ++ block.text ++ ['\n'] }

/-- Writes the explanation of a message. -/
def printExplanation (r : Reporter) (message : Message) : Reporter :=
  r.printBlock (r.renderer.renderExplanation message)

/-- Counts a message by its kind, in whatever case it is written. -/
def count (r : Reporter) (message : Message) : Reporter :=
  let kind := Text.lower message.kind
  if kind = Text.ofString "error" then { r with errors := r.errors + 1 }
  else if kind = Text.ofString "warning" then
    { r with warnings := r.warnings + 1 }
  else r

/-- Counts a message and writes it, with its explanation if explanations are
wanted. -/
def report (r : Reporter) (message : Message) (position : Option Position) :
    Reporter :=
  let block := r.renderer.render message position none none
  let reported := (r.count message).printBlock block
  if r.explain && message.explanation?.isSome then
    reported.printExplanation message
  else reported

/-- Reports a message, if its diagnostic can be drawn. One that cannot be drawn is not
counted either. -/
def report? (r : Reporter) (message : Message) (position : Option Position) :
    Except ExtentFault Reporter :=
  Extent.drawn r.renderer.room (r.renderer.runs message position none none)
    (r.report message position)

/-- One part of the summary; none if there is nothing to count. -/
def summaryPart (r : Reporter) (count : Nat) (color : Color) (label : String) :
    List Text :=
  if count = 0 then []
  else
    [countString count (r.renderer.palette.paint color (Text.ofString label))
      ++ Text.ofString " found"]

/-- The warnings and the errors found, on a line each. -/
def summary (r : Reporter) : Text :=
  Text.unlines
    (r.summaryPart r.warnings .yellow "warning"
      ++ r.summaryPart r.errors .red "error")

/-- Starts counting anew. -/
def reset (r : Reporter) : Reporter := { r with errors := 0, warnings := 0 }

end Reporter

end DiagnosticConsole
