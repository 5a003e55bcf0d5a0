import DiagnosticConsole.Text.Blank
import DiagnosticConsole.Text.DecimalDigit
import DiagnosticConsole.Text.Quoted

/-!
# Integers in text

An integer may have blanks around it, a sign, digits of any script, and single
underscores between digits. More than `maxDigits` digits are refused, whatever
comes behind them.
-/

namespace DiagnosticConsole.Text.Integer

/-- The most digits an integer may have. -/
def maxDigits : Nat := 4300

/-- Why a text is no integer. -/
inductive Fault where
  | notNumeral (text : Text)
  | tooLong (digits : Nat)
  deriving DecidableEq, Repr

/-- The wording of a fault. A text that is no numeral is quoted as far as there is
room for it. -/
def Fault.message : Fault → Text
  | .notNumeral t =>
      ofString "invalid literal for int() with base 10: " ++ (quoted t).take 200
  | .tooLong digits =>
      ofString "Exceeds the limit (" ++ ofNat maxDigits
        ++ ofString " digits) for integer string conversion: value has "
        ++ ofNat digits
        ++ ofString
          " digits; use sys.set_int_max_str_digits() to increase the limit"

/-- The blanks that may stand around a numeral: the four separators of ASCII are
none of them. -/
def isMargin (c : Char) : Bool :=
  isBlank c && !(0x1C ≤ c.toNat && c.toNat ≤ 0x1F)

/-- A digit, or an underscore between digits. -/
def isNumeralPart (c : Char) : Bool := c = '_' || isDecimalDigit c

/-- The digits of a numeral whose underscores each stand between two digits;
`afterDigit` tells whether an underscore may come next. -/
def digits? : Bool → Text → Option (List Nat)
  | afterDigit, [] => if afterDigit then some [] else none
  | afterDigit, c :: rest =>
      match digitValue? c with
      | some d => (digits? true rest).map (d :: ·)
      | none =>
          if c = '_' ∧ afterDigit = true then digits? false rest else none

/-- The number that digits stand for, highest first. -/
def ofDigits (digits : List Nat) : Nat :=
  digits.foldl (fun n d => n * 10 + d) 0

/-- The number of a numeral without a sign, with `whole` the text to quote. -/
def natural (whole body : Text) : Except Fault Nat :=
  let numeral := body.takeWhile isNumeralPart
  match digits? false numeral with
  | none => .error (.notNumeral whole)
  | some digits =>
      if maxDigits < digits.length then .error (.tooLong digits.length)
      else if (body.drop numeral.length).all isMargin then
        .ok (ofDigits digits)
      else .error (.notNumeral whole)

/-- Reads an integer. -/
def read (t : Text) : Except Fault Int :=
  match t.dropWhile isMargin with
  | '-' :: body => (natural t body).map fun n => -(n : Int)
  | '+' :: body => (natural t body).map Int.ofNat
  | body => (natural t body).map Int.ofNat

end DiagnosticConsole.Text.Integer
