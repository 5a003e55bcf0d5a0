import DiagnosticConsole.Text.Basic

/-!
# Suggestions

For a name that is not known, those are suggested that are close to it. How close
two texts are is the share of their characters that lie in common runs: the
longest run that both have, and so on in what is left on either side of it.
-/

namespace DiagnosticConsole.Suggestion

/-- The length of the common beginning of two texts. -/
def commonStart : Text → Text → Nat
  | a :: s, b :: t => if a = b then commonStart s t + 1 else 0
  | _, _ => 0

/-- A run that two texts have in common. -/
structure Run where
  inFirst : Nat
  inSecond : Nat
  length : Nat
  deriving DecidableEq, Repr

/-- The longer of two runs, the first if they are equally long. -/
def Run.longer (a b : Run) : Run := if a.length < b.length then b else a

/-- The longest of the runs that begin at places of the second text, which is
followed from one place to the next; `i` and `j` are where the texts begin. -/
def longestAt (first : Text) (i : Nat) : Nat → Text → Run → Run
  | _, [], best => best
  | j, c :: rest, best =>
      longestAt first i (j + 1) rest
        (best.longer ⟨i, j, commonStart first (c :: rest)⟩)

/-- The longest of the runs that begin at places of the first text, which is
followed from one place to the next. -/
def longestFrom (second : Text) : Nat → Text → Run → Run
  | _, [], best => best
  | i, c :: rest, best =>
      longestFrom second (i + 1) rest (longestAt (c :: rest) i 0 second best)

/-- The longest common run of two texts; of several, the one that begins first in
the first text, and then in the second. -/
def longestRun (first second : Text) : Run :=
  longestFrom second 0 first ⟨0, 0, 0⟩

/-- The number of characters in common runs. -/
def matching (first second : Text) : Nat :=
  if _h : (longestRun first second).length ≠ 0 ∧
      (longestRun first second).inFirst < first.length then
    let run := longestRun first second
    run.length
      + matching (first.take run.inFirst) (second.take run.inSecond)
      + matching (first.drop (run.inFirst + run.length))
          (second.drop (run.inSecond + run.length))
  else 0
termination_by first.length
decreasing_by
  · simp only [List.length_take]; omega
  · simp only [List.length_drop]; omega

/-- A possible name and how close it is to the one that is not known: the
characters in common runs, of so many in both. -/
structure Scored where
  name : Text
  common : Nat
  total : Nat

/-- Tests whether at least three of five characters are in common runs. -/
def Scored.isClose (s : Scored) : Bool := 3 * s.total ≤ 10 * s.common

/-- Tests whether a name is to be suggested before another: it is closer, or as
close and later in the order of code points. -/
def Scored.isBefore (a b : Scored) : Bool :=
  if a.common * b.total = b.common * a.total then
    !Text.precedes a.name b.name
  else b.common * a.total < a.common * b.total

/-- The most names that are suggested. -/
def maxSuggestions : Nat := 3

/-- The names that are close to one that is not known, the closest first. -/
def closest (unknown : Text) (names : List Text) : List Text :=
  let scored := names.map fun name =>
    ({ name, common := matching name unknown
       total := name.length + unknown.length } : Scored)
  (((scored.filter Scored.isClose).mergeSort Scored.isBefore).take
    maxSuggestions).map Scored.name

end DiagnosticConsole.Suggestion
