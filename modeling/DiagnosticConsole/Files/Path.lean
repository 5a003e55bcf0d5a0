import DiagnosticConsole.Text.Utf8

/-!
# Paths

A path is written with slashes. Put together from a directory and names below
it, it has no empty parts and none that stand for the directory they are in. The
system takes paths and names up to a number of bytes.
-/

namespace DiagnosticConsole.Path

/-- The most bytes of a path. -/
def maxBytes : Nat := 4095

/-- The most bytes of one name in a path. -/
def maxNameBytes : Nat := 255

/-- Tests for a text with more bytes than a limit. -/
def exceeds (limit : Nat) (t : Text) : Bool :=
  limit < (Text.Utf8.encode t).length

/-- The slashes that a path begins with, as far as they count: two of them stay
two, and more are one. -/
def anchor (path : Text) : Text :=
  match path with
  | '/' :: '/' :: '/' :: _ => ['/']
  | '/' :: '/' :: _ => ['/', '/']
  | '/' :: _ => ['/']
  | _ => []

/-- The parts of a path that say something. -/
def parts (path : Text) : List Text :=
  (Text.pieces '/' path).filter fun part => !part.isEmpty && part ≠ ['.']

/-- The path of something below a directory. -/
def below (directory : Text) (names : List Text) : Text :=
  anchor directory ++ Text.join ['/'] (parts directory ++ names)

end DiagnosticConsole.Path
