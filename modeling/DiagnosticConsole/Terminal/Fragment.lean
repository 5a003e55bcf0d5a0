import DiagnosticConsole.Diagnostic.Highlighter
import DiagnosticConsole.Terminal.Escape
import DiagnosticConsole.Terminal.Style
import DiagnosticConsole.Text.DigitForm
import DiagnosticConsole.Text.Integer

/-!
# Styled fragments

The line editor shows text in fragments of one style. They come from text with
colour sequences by a machine that goes over the characters: its mode tells what
the next character belongs to. Sequences that set no style draw nothing, one
that moves the cursor to the right counts as spaces, and one that is not
finished is dropped. The numbers of a sequence take digits of any form, but only
decimal ones make an integer.
-/

namespace DiagnosticConsole.Terminal

/-- Text in one style. -/
structure Fragment where
  style : Text
  text : Text
  deriving DecidableEq, Repr

namespace Fragment

/-- What the next character belongs to. -/
inductive Mode where
  | text
  /-- The text between two marks, which takes no cells. -/
  | invisible (t : Text)
  | afterInvisible
  | escape
  /-- A sequence with its finished numbers, and the digits of the one that is being
  read, the last of them first. -/
  | control (numbers : List Nat) (digits : Text)
  deriving DecidableEq, Repr

/-- Why a line of a document has no fragments. -/
inductive Fault where
  | number (fault : Text.Integer.Fault)
  /-- A line before the first, as counted from the last. -/
  | noSuchLine
  deriving DecidableEq, Repr

/-- The wording of a fault. -/
def Fault.message : Fault → Text
  | .number fault => fault.message
  | .noSuchLine => Text.ofString "list index out of range"

/-- The greatest number in a sequence. -/
def maxNumber : Nat := 9999

/-- The style of text that takes no cells. -/
def invisibleStyle : Text := Text.ofString "[ZeroWidthEscape]"

/-- The state of the machine. -/
structure State where
  mode : Mode := .text
  style : Style := {}
  deriving DecidableEq, Repr

/-- The character that introduces a control sequence on its own. -/
def introducer : Char := '\u009b'

/-- A character that is not inside of a sequence. -/
def plainStep (s : State) (c : Char) : State × List Fragment :=
  if c = Escape.esc then ({ s with mode := .escape }, [])
  else if c = introducer then ({ s with mode := .control [] [] }, [])
  else ({ s with mode := .text }, [⟨s.style.name, [c]⟩])

/-- The end of a control sequence with the given numbers. -/
def finish (s : State) (numbers : List Nat) (c : Char) : State × List Fragment :=
  if c = 'm' then
    ({ mode := .text, style := s.style.apply numbers }, [])
  else if c = 'C' then
    ({ s with mode := .text },
      List.replicate (numbers.headD 0) ⟨s.style.name, [' ']⟩)
  else ({ s with mode := .text }, [])

/-- The number that the digits of a sequence make, the last of them first; no
digits make zero. -/
def numberOf (digits : Text) : Except Text.Integer.Fault Nat :=
  if digits.isEmpty then .ok 0
  else (Text.Integer.read digits.reverse).map fun n => min n.toNat maxNumber

/-- A character of a control sequence. -/
def controlStep (s : State) (numbers : List Nat) (digits : Text) (c : Char) :
    Except Text.Integer.Fault (State × List Fragment) :=
  if Text.isDigit c then
    .ok ({ s with mode := .control numbers (c :: digits) }, [])
  else
    match numberOf digits with
    | .error fault => .error fault
    | .ok number =>
        let numbers := numbers ++ [number]
        if c = ';' then .ok ({ s with mode := .control numbers [] }, [])
        else .ok (finish s numbers c)

/-- One step of the machine: the next state, and what it shows. -/
def step (s : State) (c : Char) :
    Except Text.Integer.Fault (State × List Fragment) :=
  match s.mode with
  | .text =>
      if c = '\x01' then .ok ({ s with mode := .invisible [] }, [])
      else .ok (plainStep s c)
  | .afterInvisible => .ok (plainStep s c)
  | .invisible t =>
      if c = '\x02' then
        .ok ({ s with mode := .afterInvisible }, [⟨invisibleStyle, t.reverse⟩])
      else .ok ({ s with mode := .invisible (c :: t) }, [])
  | .escape =>
      if c = '[' then .ok ({ s with mode := .control [] [] }, [])
      else .ok ({ s with mode := .text }, [])
  | .control numbers digits => controlStep s numbers digits c

/-- The fragments of a text as the machine gives them. -/
def run (s : State) : Text → Except Text.Integer.Fault (List Fragment)
  | [] => .ok []
  | c :: rest =>
      match step s c with
      | .error fault => .error fault
      | .ok (s', shown) => (run s' rest).map (shown ++ ·)

/-- Fragments of the same style that follow each other as one. -/
def merge : List Fragment → List Fragment
  | [] => []
  | f :: rest =>
      match merge rest with
      | g :: more =>
          if f.style = g.style then ⟨f.style, f.text ++ g.text⟩ :: more
          else f :: g :: more
      | [] => [f]

/-- The fragments of a text with colour sequences. -/
def ofText (t : Text) : Except Text.Integer.Fault (List Fragment) :=
  (run {} t).map merge

/-- A line of a document, with its lines counted from zero, or from the last if the
number is negative; empty behind the last line. -/
def lineOf (document : Text) (line : Int) : Except Fault (Option Text) :=
  let lines := Text.pieces '\n' document
  if 0 ≤ line then .ok lines[line.toNat]?
  else if -line ≤ lines.length then
    .ok lines[((lines.length : Int) + line).toNat]?
  else .error .noSuchLine

/-- The fragments of one line of a document. -/
def ofLine (highlighter : Highlighter) (document : Text) (line : Int) :
    Except Fault (List Fragment) :=
  match lineOf document line with
  | .error fault => .error fault
  | .ok none => .ok []
  | .ok (some content) =>
      match ofText (highlighter.apply content) with
      | .ok fragments => .ok fragments
      | .error fault => .error (.number fault)

end Fragment

end DiagnosticConsole.Terminal
