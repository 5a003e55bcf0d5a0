import DiagnosticConsole.Text.Printable
import DiagnosticConsole.Terminal.CellTables
import DiagnosticConsole.Terminal.Cluster
import DiagnosticConsole.Terminal.Escape

/-!
# Width

The cells that a text takes once its escape sequences are gone. Printable ASCII
takes one cell a character. Any other text is measured by its grapheme clusters,
a control making its cluster immeasurable, which counts as nothing; a lone tab
counts as one cell.
-/

namespace DiagnosticConsole.Terminal

/-- The cells of a character, none at all for a control. -/
def cellsOf (c : Char) : Option Nat :=
  let n := c.toNat
  if 0x20 ≤ n ∧ n ≤ 0x7E then some 1
  else if (1 ≤ n ∧ n ≤ 0x1F) ∨ (0x7F ≤ n ∧ n ≤ 0x9F) then none
  else if zeroWidth.contains n then some 0
  else if wide.contains n then some 2
  else some 1

/-- The joiner, which hides the character after it. -/
def joinerMark : Char := '\u200D'

/-- The emoji selector. -/
def selectorMark : Char := '\uFE0F'

/-- The cells of a run of characters, if none of them is a control. `measured`
is the last character that took a cell and that no selector has widened. -/
def runCells (measured : Option Char) : Text → Option Nat
  | [] => some 0
  | c :: rest =>
      if c = joinerMark then
        match rest with
        | [] => some 0
        | _ :: rest' => runCells measured rest'
      else
        match c == selectorMark, measured with
        | true, some m =>
            (runCells none rest).map
              (· + if widenedBySelector.contains m.toNat then 1 else 0)
        | _, _ =>
            match cellsOf c with
            | none => none
            | some cells =>
                (runCells (if cells > 0 then some c else measured) rest).map
                  (cells + ·)

/-- The cells of a cluster. -/
def clusterCells (cluster : Text) : Nat :=
  if cluster = ['\t'] then 1 else (runCells none cluster).getD 0

/-- A character of printable ASCII. -/
def isPrintableAscii (c : Char) : Bool := c.toNat < 0x80 && Text.isPrintable c

/-- The cells of a text as the sum over its clusters. -/
def clusterSum (t : Text) : Nat :=
  ((clusters t).map clusterCells).foldr (· + ·) 0

/-- The cells that a text takes on the terminal. -/
def width (t : Text) : Nat :=
  let drawn := Escape.stripAll t
  if drawn.all isPrintableAscii then drawn.length else clusterSum drawn

end DiagnosticConsole.Terminal
