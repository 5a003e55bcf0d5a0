import DiagnosticConsole.Text.Basic

/-!
# Styles

What the parameters of a colour sequence make of the style of the text behind
it. A style is named by what is set in it, the colours first.
-/

namespace DiagnosticConsole.Terminal

/-- The style of text on the terminal. -/
structure Style where
  foreground : Option Text := none
  background : Option Text := none
  bold : Bool := false
  underline : Bool := false
  strike : Bool := false
  italic : Bool := false
  blink : Bool := false
  reverse : Bool := false
  hidden : Bool := false
  deriving DecidableEq, Repr

namespace Style

/-- The eight colours and their names, the dark ones and the bright ones. -/
def darkColors : List String :=
  ["ansiblack", "ansired", "ansigreen", "ansiyellow", "ansiblue", "ansimagenta",
   "ansicyan", "ansigray"]

/-- The names of the bright colours. -/
def brightColors : List String :=
  ["ansibrightblack", "ansibrightred", "ansibrightgreen", "ansibrightyellow",
   "ansibrightblue", "ansibrightmagenta", "ansibrightcyan", "ansiwhite"]

/-- The colour of a parameter that sets the foreground. -/
def colorOf? (n : Nat) : Option Text :=
  if 30 ≤ n ∧ n ≤ 37 then darkColors[n - 30]?.map Text.ofString
  else if n = 39 then some (Text.ofString "ansidefault")
  else if 90 ≤ n ∧ n ≤ 97 then brightColors[n - 90]?.map Text.ofString
  else none

/-- A colour by its three parts. -/
def rgb (r g b : Nat) : Text :=
  '\x23' :: Text.hex 2 r ++ Text.hex 2 g ++ Text.hex 2 b

/-- The first sixteen colours of the table of colours. -/
def basicColors : List (Nat × Nat × Nat) :=
  [(0x00, 0x00, 0x00), (0xCD, 0x00, 0x00), (0x00, 0xCD, 0x00),
   (0xCD, 0xCD, 0x00), (0x00, 0x00, 0xEE), (0xCD, 0x00, 0xCD),
   (0x00, 0xCD, 0xCD), (0xE5, 0xE5, 0xE5), (0x7F, 0x7F, 0x7F),
   (0xFF, 0x00, 0x00), (0x00, 0xFF, 0x00), (0xFF, 0xFF, 0x00),
   (0x5C, 0x5C, 0xFF), (0xFF, 0x00, 0xFF), (0x00, 0xFF, 0xFF),
   (0xFF, 0xFF, 0xFF)]

/-- One part of a colour of the cube, in six steps. -/
def cubeStep (n : Nat) : Nat := if n % 6 = 0 then 0 else 55 + 40 * (n % 6)

/-- A colour of the table of colours: the basic ones, a cube that begins anew
after its last colour, and greys. -/
def indexed? (n : Nat) : Option Text :=
  if n < 16 then basicColors[n]?.map fun (r, g, b) => rgb r g b
  else if n ≤ 232 then
    some (rgb (cubeStep ((n - 16) / 36)) (cubeStep ((n - 16) / 6))
      (cubeStep (n - 16)))
  else if n ≤ 253 then
    let v := 8 + 10 * (n - 232)
    some (rgb v v v)
  else none

/-- The style after one parameter that stands for itself. -/
def set (s : Style) (n : Nat) : Style :=
  match colorOf? n, (if 10 ≤ n then colorOf? (n - 10) else none) with
  | some color, _ => { s with foreground := some color }
  | none, some color => { s with background := some color }
  | none, none =>
      match n with
      | 0 => {}
      | 1 => { s with bold := true }
      | 3 => { s with italic := true }
      | 4 => { s with underline := true }
      | 5 | 6 => { s with blink := true }
      | 7 => { s with reverse := true }
      | 8 => { s with hidden := true }
      | 9 => { s with strike := true }
      | 22 => { s with bold := false }
      | 23 => { s with italic := false }
      | 24 => { s with underline := false }
      | 25 => { s with blink := false }
      | 27 => { s with reverse := false }
      | 28 => { s with hidden := false }
      | 29 => { s with strike := false }
      | _ => s

/-- The style after parameters. A colour by its number in the table or by its
parts takes several of them. -/
def apply (s : Style) : List Nat → Style
  | [] => s
  | 38 :: 5 :: n :: rest => apply { s with foreground := indexed? n } rest
  | 48 :: 5 :: n :: rest => apply { s with background := indexed? n } rest
  | 38 :: 2 :: r :: g :: b :: rest =>
      apply { s with foreground := some (rgb r g b) } rest
  | 48 :: 2 :: r :: g :: b :: rest =>
      apply { s with background := some (rgb r g b) } rest
  | 38 :: _ :: n :: rest => apply s (n :: rest)
  | 48 :: _ :: n :: rest => apply s (n :: rest)
  | n :: rest => apply (s.set n) rest
termination_by ns => ns.length

/-- The name of a style. -/
def name (s : Style) : Text :=
  let flag (b : Bool) (word : String) : List Text :=
    if b then [Text.ofString word] else []
  Text.join [' ']
    (s.foreground.toList
      ++ (s.background.map (Text.ofString "bg:" ++ ·)).toList
      ++ flag s.bold "bold" ++ flag s.underline "underline"
      ++ flag s.strike "strike" ++ flag s.italic "italic"
      ++ flag s.blink "blink" ++ flag s.reverse "reverse"
      ++ flag s.hidden "hidden")

end Style

end DiagnosticConsole.Terminal
