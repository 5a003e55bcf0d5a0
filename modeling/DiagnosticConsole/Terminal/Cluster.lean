import DiagnosticConsole.Text.Basic
import DiagnosticConsole.Terminal.BreakTables

/-!
# Grapheme clusters

What a reader takes for one character may be several: a letter with its marks,
a syllable of Hangul, a flag, pictographs joined to one. Clusters are found by a
machine that goes over the characters. Its state says what came before; a
character tells whether a cluster ends in front of it and what the next state
is.
-/

namespace DiagnosticConsole.Terminal

/-- Characters by how they join their neighbours. -/
inductive BreakClass where
  | other
  | carriageReturn
  | lineFeed
  | control
  | extending
  | joiner
  | spacing
  | prepended
  | leading
  | vowel
  | trailing
  | openSyllable
  | closedSyllable
  | pictographic
  | regional
  deriving DecidableEq, Repr

/-- The class of a syllable of Hangul, which is open if it has no trailing
consonant. -/
def BreakClass.ofSyllable (n : Nat) : BreakClass :=
  if (n - 0xAC00) % 28 = 0 then .openSyllable else .closedSyllable

/-- The tables of the classes that have one. -/
def BreakClass.tables : List (BreakClass × Text.CodeRanges) :=
  [(.prepended, BreakTables.prepended), (.control, BreakTables.control),
   (.extending, BreakTables.extending), (.regional, BreakTables.regional),
   (.spacing, BreakTables.spacing), (.leading, BreakTables.leadingJamo),
   (.vowel, BreakTables.vowelJamo), (.trailing, BreakTables.trailingJamo),
   (.pictographic, BreakTables.pictographic)]

/-- The class of a character. -/
def BreakClass.of (c : Char) : BreakClass :=
  let n := c.toNat
  if n = 0x0D then .carriageReturn
  else if n = 0x0A then .lineFeed
  else if n = 0x200D then .joiner
  else if 0xAC00 ≤ n ∧ n ≤ 0xD7A3 then ofSyllable n
  else
    match tables.find? fun entry => entry.2.contains n with
    | some entry => entry.1
    | none => .other

/-- What the characters so far end in. -/
inductive ClusterState where
  | plain
  | afterReturn
  | afterControl
  | afterPrepended
  | leading
  | vowel
  | trailing
  | pictograph
  | joinedPictograph
  | oneRegional
  deriving DecidableEq, Repr

namespace ClusterState

/-- The state after a character that begins a cluster. -/
def start : BreakClass → ClusterState
  | .carriageReturn => afterReturn
  | .lineFeed | .control => afterControl
  | .prepended => afterPrepended
  | .leading => leading
  | .vowel | .openSyllable => vowel
  | .trailing | .closedSyllable => trailing
  | .pictographic => pictograph
  | .regional => oneRegional
  | .other | .extending | .joiner | .spacing => plain

/-- A mark that joins whatever stands before it. -/
def joins : BreakClass → Bool
  | .extending | .joiner | .spacing => true
  | _ => false

/-- Whether a cluster ends in front of a character, and the state after it. -/
def next (state : ClusterState) (c : BreakClass) : Bool × ClusterState :=
  match state with
  | plain => (!joins c, start c)
  | afterReturn => (c ≠ .lineFeed, start c)
  | afterControl => (true, start c)
  | afterPrepended =>
      match c with
      | .control | .lineFeed => (true, plain)
      | .carriageReturn => (true, afterReturn)
      | _ => (false, start c)
  | leading =>
      match c with
      | .leading | .vowel | .openSyllable | .closedSyllable => (false, start c)
      | _ => (!joins c, start c)
  | vowel =>
      match c with
      | .vowel | .trailing => (false, start c)
      | _ => (!joins c, start c)
  | trailing =>
      match c with
      | .trailing => (false, start c)
      | _ => (!joins c, start c)
  | pictograph =>
      match c with
      | .extending => (false, pictograph)
      | .joiner => (false, joinedPictograph)
      | _ => (!joins c, start c)
  | joinedPictograph =>
      match c with
      | .pictographic => (false, pictograph)
      | _ => (!joins c, start c)
  | oneRegional =>
      match c with
      | .regional => (false, plain)
      | _ => (!joins c, start c)

end ClusterState

/-- The clusters of the characters that follow a state; the first of them goes
on with the cluster before it, and is empty if that one is over. -/
def clustersFrom (state : ClusterState) : Text → Text × List Text
  | [] => ([], [])
  | c :: rest =>
      let (breaks, state') := state.next (BreakClass.of c)
      let (current, more) := clustersFrom state' rest
      if breaks then ([], (c :: current) :: more) else (c :: current, more)

/-- The grapheme clusters of a text. -/
def clusters : Text → List Text
  | [] => []
  | c :: rest =>
      let (current, more) := clustersFrom (ClusterState.start (BreakClass.of c)) rest
      (c :: current) :: more

end DiagnosticConsole.Terminal
