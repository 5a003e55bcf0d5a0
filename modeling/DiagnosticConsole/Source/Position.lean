import DiagnosticConsole.Source.Span

/-!
# Positions and what they were inlined at

A position is a span in a file that may have been inlined at another position,
and so on outwards. Two positions may agree in everything and still be two, and
the links may run in a circle, so a position is a place in a graph. The chain
of a position follows the links until they end, come back to a place already
passed, or have given `Position.maxDepth` places.
-/

namespace DiagnosticConsole

/-- A span in a file. -/
structure Site where
  source : SourceFile
  span : Span
  deriving DecidableEq, Repr

/-- Places, each with its site and the place it was inlined at. -/
structure ExpansionGraph where
  size : Nat
  site : Fin size → Site
  outer : Fin size → Option (Fin size)

/-- The graph of a list of sites, each with the number of the one it was inlined
at. A number past the list is no link. -/
def ExpansionGraph.ofLinks (links : Array (Site × Option Nat)) :
    ExpansionGraph where
  size := links.size
  site i := links[i].1
  outer i :=
    match links[i].2 with
    | some j => if h : j < links.size then some ⟨j, h⟩ else none
    | none => none

/-- A place in a graph. -/
structure Position where
  graph : ExpansionGraph
  index : Fin graph.size

namespace Position

/-- The most places a chain shows. -/
def maxDepth : Nat := 64

/-- A position that was not inlined. -/
def ofSite (site : Site) : Position where
  graph := { size := 1, site := fun _ => site, outer := fun _ => none }
  index := 0

/-- The site of a position. -/
def site (p : Position) : Site := p.graph.site p.index

/-- The span of a position. -/
def span (p : Position) : Span := p.site.span

/-- The path of the file of a position. -/
def file (p : Position) : Text := p.site.source.path

/-- The first line of a position with its line feed. -/
def lineContent (p : Position) : Text :=
  p.site.source.lineContent p.span.startLine

/-- The name of a position: file, line and column, both counted from one. -/
def label (p : Position) : Text :=
  p.file ++ [':'] ++ Text.ofNat p.span.startLine ++ [':']
    ++ Text.ofNat (p.span.startColumn + 1)

/-- The position that a position was inlined at. -/
def outer (p : Position) : Option Position :=
  (p.graph.outer p.index).map fun i => ⟨p.graph, i⟩

/-- Follows the links from a place, as long as there is room and the place was
not passed before. -/
def follow (graph : ExpansionGraph) :
    Nat → List (Fin graph.size) → Option (Fin graph.size) →
      List (Fin graph.size)
  | 0, _, _ => []
  | _ + 1, _, none => []
  | room + 1, passed, some i =>
      if i ∈ passed then []
      else i :: follow graph room (i :: passed) (graph.outer i)

/-- A position and the ones it was inlined at, from the inside out. -/
def chain (p : Position) : List Position :=
  (follow p.graph maxDepth [] (some p.index)).map fun i => ⟨p.graph, i⟩

/-- The sites met on the way outwards, at most so many. -/
def sitesFrom (graph : ExpansionGraph) :
    Nat → Option (Fin graph.size) → List Site
  | 0, _ => []
  | _ + 1, none => []
  | room + 1, some i => graph.site i :: sitesFrom graph room (graph.outer i)

/-- The sites of a position and of the ones it was inlined at. -/
def trail (p : Position) : List Site :=
  sitesFrom p.graph p.graph.size (some p.index)

/-- Two positions agree if all they name is the same; they need not be one. -/
def agrees (p q : Position) : Bool := p.trail = q.trail

end Position

end DiagnosticConsole
