/-!
# Text

A text is a list of characters, so that offsets, columns and cursors all count
characters and every function on texts is a function on lists. This module has
the cuts the rest of the library makes: by an index that may be negative, at a
separator, and back together again.
-/

namespace DiagnosticConsole

/-- Text as the characters it is made of. -/
abbrev Text := List Char

namespace Text

/-- A string literal as a text. -/
def ofString (s : String) : Text := s.toList

/-- The text as a string, for the edge of the program. -/
def asString (t : Text) : String := String.ofList t

/-- The last index that a text can have: indexes are signed numbers of 64 bits. -/
def maxIndex : Nat := 0x7FFFFFFFFFFFFFFF

/-- `n` copies of a character; none when `n` is not positive. -/
def copies (n : Int) (c : Char) : Text := List.replicate n.toNat c

/-- A run of `n` spaces; none when `n` is not positive. -/
def spaces (n : Int) : Text := copies n ' '

/-- The place an index names in a text of length `length`: a negative index
counts from the end, and one outside of the text is its nearest end. -/
def place (length : Nat) (index : Int) : Nat :=
  if index < 0 then (length + index).toNat else min index.toNat length

/-- The text before an index. -/
def before (t : Text) (stop : Int) : Text := t.take (place t.length stop)

/-- The text from an index on. -/
def after (t : Text) (start : Int) : Text := t.drop (place t.length start)

/-- The text from one index up to another, empty if they are out of order. -/
def slice (t : Text) (start stop : Int) : Text :=
  (before t stop).drop (place t.length start)

/-- The pieces between the occurrences of a character: one more than there are
occurrences. -/
def pieces (separator : Char) : Text → List Text
  | [] => [[]]
  | c :: rest =>
      if c = separator then [] :: pieces separator rest
      else
        match pieces separator rest with
        | [] => [[c]]
        | piece :: more => (c :: piece) :: more

/-- Texts with a separator between each two. -/
def join (separator : Text) : List Text → Text
  | [] => []
  | [t] => t
  | t :: u :: rest => t ++ separator ++ join separator (u :: rest)

/-- Texts one below the other. -/
def unlines (lines : List Text) : Text := join ['\n'] lines

/-- The text without the characters at its end that a test accepts. -/
def dropWhileEnd (p : Char → Bool) (t : Text) : Text :=
  (t.reverse.dropWhile p).reverse

/-- The text without the line terminators at its end. -/
def withoutTerminator (t : Text) : Text :=
  dropWhileEnd (fun c => c = '\r' || c = '\n') t

/-- A natural number in decimal, of any size: there is a limit on the digits of a
number that is read (`Integer.maxDigits`), but none on those of one that is
written. -/
def ofNat (n : Nat) : Text := Nat.toDigits 10 n

theorem not_mem_ofNat {c : Char} (hc : c.isDigit = false) (n : Nat) :
    c ∉ ofNat n := by
  intro h
  have hdigit := Nat.isDigit_of_mem_toDigits (by decide) (by decide) h
  rw [hc] at hdigit
  cases hdigit

/-- An integer in decimal, with a minus sign if it is negative. -/
def ofInt : Int → Text
  | .ofNat n => ofNat n
  | .negSucc n => '-' :: ofNat (n + 1)

/-- Numbers from zero in hexadecimal, filled with zeros on the left. -/
def hex (width n : Nat) : Text :=
  let digits := Nat.toDigits 16 n
  List.replicate (width - digits.length) '0' ++ digits

/-- A number in decimal with at least two digits. -/
def twoDigits (n : Nat) : Text :=
  if n < 10 then '0' :: ofNat n else ofNat n

/-- The text with the letters of English in lower case. -/
def lower (t : Text) : Text := t.map Char.toLower

/-- The first text comes before the second in the order of code points. -/
def precedes : Text → Text → Bool
  | [], [] => false
  | [], _ :: _ => true
  | _ :: _, [] => false
  | a :: s, b :: t => if a = b then precedes s t else a.toNat < b.toNat

/-- Puts a text in its place among texts in order, unless it is there. -/
def insertInOrder (t : Text) : List Text → List Text
  | [] => [t]
  | u :: rest =>
      if t = u then u :: rest
      else if precedes t u then t :: u :: rest
      else u :: insertInOrder t rest

/-- The distinct texts of a list in the order of code points. -/
def distinctInOrder (ts : List Text) : List Text :=
  ts.foldr insertInOrder []

end Text

end DiagnosticConsole
