import DiagnosticConsole.Json.Basic
import DiagnosticConsole.Text.Integer

/-!
# Reading JSON

The reader goes over the text once. Each of its parts leaves a rest that is
shorter than what it was given, which is why it ends. A fault remembers how
much of the text was left where it lies; line, column and offset are worked out
once, when the whole text is at hand.
-/

namespace DiagnosticConsole.Json

/-- Why a text is not JSON. -/
inductive Reason where
  | valueExpected
  | propertyNameExpected
  | colonExpected
  | commaExpected
  | controlCharacter
  | unterminatedString
  | badEscape
  | badCodeEscape
  | extraData
  | byteOrderMark
  deriving DecidableEq, Repr

/-- The wording of a reason. -/
def Reason.message : Reason → Text
  | .valueExpected => Text.ofString "Expecting value"
  | .propertyNameExpected =>
      Text.ofString "Expecting property name enclosed in double quotes"
  | .colonExpected => Text.ofString "Expecting ':' delimiter"
  | .commaExpected => Text.ofString "Expecting ',' delimiter"
  | .controlCharacter => Text.ofString "Invalid control character at"
  | .unterminatedString => Text.ofString "Unterminated string starting at"
  | .badEscape => Text.ofString "Invalid \\escape"
  | .badCodeEscape => Text.ofString "Invalid \\uXXXX escape"
  | .extraData => Text.ofString "Extra data"
  | .byteOrderMark =>
      Text.ofString "Unexpected UTF-8 BOM (decode using utf-8-sig)"

/-- A reason and the offset of the place it is about. -/
structure Fault where
  reason : Reason
  offset : Nat
  line : Nat
  column : Nat
  deriving DecidableEq, Repr

/-- The fault at an offset of a text. -/
def Fault.at (text : Text) (reason : Reason) (offset : Nat) : Fault :=
  let earlier := text.take offset
  { reason, offset
    line := 1 + earlier.count '\n'
    column := 1 + (earlier.reverse.takeWhile (· != '\n')).length }

/-- The wording of a fault. -/
def Fault.message (fault : Fault) : Text :=
  fault.reason.message ++ Text.ofString ": line " ++ Text.ofNat fault.line
    ++ Text.ofString " column " ++ Text.ofNat fault.column
    ++ Text.ofString " (char " ++ Text.ofNat fault.offset ++ [')']

/-- The values that hold values. -/
inductive Nesting where
  | array
  | object
  deriving DecidableEq, Repr

/-- The most values that may be open at once. -/
def maxDepth : Nat := 985

/-- Why reading stopped: at a fault with so much of the text left, at an integer
of too many digits, or at a value inside of too many others. -/
inductive Stop where
  | fault (reason : Reason) (remaining : Nat)
  | integerTooLong (digits : Nat)
  | tooDeep (nesting : Nesting)
  deriving DecidableEq, Repr

/-- The outcome of a part of the reader on a text: what it read and the rest,
which is shorter. -/
abbrev Part (text : Text) (α : Type) :=
  Except Stop (α × { rest : Text // rest.length < text.length })

/-- The white space of JSON. -/
def isSpace (c : Char) : Bool := c = ' ' || c = '\t' || c = '\n' || c = '\r'

/-- The text without the white space at its start. -/
def skipSpace (text : Text) : Text := text.dropWhile isSpace

theorem length_skipSpace_le (text : Text) :
    (skipSpace text).length ≤ text.length := by
  induction text with
  | nil => simp [skipSpace]
  | cons c rest ih =>
      by_cases h : isSpace c = true
      · simp only [skipSpace, List.dropWhile_cons, h, if_true, List.length_cons] at ih ⊢
        omega
      · simp [skipSpace, h]

/-- The value of a hexadecimal digit. -/
def hexValue? (c : Char) : Option Nat :=
  if '0' ≤ c ∧ c ≤ '9' then some (c.toNat - 48)
  else if 'a' ≤ c ∧ c ≤ 'f' then some (c.toNat - 87)
  else if 'A' ≤ c ∧ c ≤ 'F' then some (c.toNat - 55)
  else none

/-- The number of four hexadecimal digits. -/
def hexNumber? (a b c d : Char) : Option Nat :=
  match hexValue? a, hexValue? b, hexValue? c, hexValue? d with
  | some p, some q, some r, some s => some (((p * 16 + q) * 16 + r) * 16 + s)
  | _, _, _, _ => none

/-- The character of a code unit. A text is made of Unicode scalar values, so half of a
pair that lacks its other half is taken for the replacement character. -/
def unitChar (n : Nat) : Char :=
  if 0xD800 ≤ n ∧ n ≤ 0xDFFF then '\uFFFD' else Char.ofNat n

/-- The character of a pair of code units. -/
def pairChar (high low : Nat) : Char :=
  Char.ofNat (0x10000 + (high - 0xD800) * 0x400 + (low - 0xDC00))

/-- The character an escape by one letter stands for. -/
def escaped? : Char → Option Char
  | '"' => some '"'
  | '\\' => some '\\'
  | '/' => some '/'
  | 'b' => some '\x08'
  | 'f' => some '\x0c'
  | 'n' => some '\n'
  | 'r' => some '\r'
  | 't' => some '\t'
  | _ => none

/-- Looks for the second escape of a pair, where a string has at least its
closing quote behind it. -/
def lowHalf (text : Text) : Except Stop (Option Nat) :=
  match text with
  | '\\' :: 'u' :: a :: b :: c :: d :: _ :: rest =>
      match hexNumber? a b c d with
      | none => .error (.fault .badCodeEscape (rest.length + 6))
      | some low =>
          .ok (if 0xDC00 ≤ low ∧ low ≤ 0xDFFF then some low else none)
  | _ => .ok none

/-- Reads the digits of an escape by code unit, of which `text` is what follows
the letter, and the second escape of a pair if there is one. -/
def codeEscape (text : Text) : Part text Char :=
  match text with
  | a :: b :: c :: d :: e :: rest =>
      match hexNumber? a b c d with
      | none => .error (.fault .badCodeEscape (rest.length + 6))
      | some high =>
          if 0xD800 ≤ high ∧ high ≤ 0xDBFF then
            match lowHalf (e :: rest) with
            | .error stop => .error stop
            | .ok (some low) =>
                .ok (pairChar high low, ⟨(e :: rest).drop 6, by
                  simp only [List.length_drop, List.length_cons]; omega⟩)
            | .ok none => .ok (unitChar high,
                ⟨e :: rest, by simp only [List.length_cons]; omega⟩)
          else .ok (unitChar high,
            ⟨e :: rest, by simp only [List.length_cons]; omega⟩)
  | _ => .error (.fault .badCodeEscape (text.length + 1))

/-- Reads the rest of a string up to its closing quote; `opening` is how much of
the text is left at the opening quote. -/
def stringBody (opening : Nat) (text : Text) : Part text Text :=
  match text with
  | [] => .error (.fault .unterminatedString opening)
  | '"' :: rest => .ok ([], ⟨rest, by simp⟩)
  | ['\\'] => .error (.fault .unterminatedString opening)
  | '\\' :: 'u' :: rest =>
      match codeEscape rest with
      | .error stop => .error stop
      | .ok (c, ⟨rest', h⟩) =>
          match stringBody opening rest' with
          | .error stop => .error stop
          | .ok (t, ⟨rest'', h'⟩) =>
              .ok (c :: t, ⟨rest'', by simp only [List.length_cons]; omega⟩)
  | '\\' :: letter :: rest =>
      match escaped? letter with
      | none => .error (.fault .badEscape (rest.length + 2))
      | some c =>
          match stringBody opening rest with
          | .error stop => .error stop
          | .ok (t, ⟨rest', h⟩) =>
              .ok (c :: t, ⟨rest', by simp only [List.length_cons]; omega⟩)
  | c :: rest =>
      if c.toNat ≤ 0x1F then .error (.fault .controlCharacter (rest.length + 1))
      else
        match stringBody opening rest with
        | .error stop => .error stop
        | .ok (t, ⟨rest', h⟩) =>
            .ok (c :: t, ⟨rest', by simp only [List.length_cons]; omega⟩)
termination_by text.length
decreasing_by all_goals simp only [List.length_cons]; omega

/-- The digits at the start of a text. -/
def digits (text : Text) : Text := text.takeWhile Char.isDigit

/-- The fraction at the start of a text: a point and at least one digit. -/
def fraction (text : Text) : Text :=
  match text with
  | '.' :: rest => if (digits rest).isEmpty then [] else '.' :: digits rest
  | _ => []

/-- The exponent at the start of a text: its letter, a sign perhaps, and at
least one digit. -/
def exponent (text : Text) : Text :=
  match text with
  | e :: rest =>
      if e = 'e' ∨ e = 'E' then
        let sign := match rest with
          | '+' :: _ => ['+']
          | '-' :: _ => ['-']
          | _ => []
        let ds := digits (rest.drop sign.length)
        if ds.isEmpty then [] else e :: sign ++ ds
      else []
  | [] => []

/-- The whole part at the start of a text: a sign perhaps, then a zero or digits
that do not begin with one. -/
def whole (text : Text) : Text :=
  let sign := match text with
    | '-' :: _ => ['-']
    | _ => []
  match text.drop sign.length with
  | '0' :: _ => sign ++ ['0']
  | rest => if (digits rest).isEmpty then [] else sign ++ digits rest

/-- The integer of a numeral of digits and perhaps a minus sign. -/
def integerOf : Text → Except Stop Int
  | '-' :: ds =>
      if ds.length ≤ Text.Integer.maxDigits then
        .ok (-(Text.Integer.ofDigits (ds.map fun c => c.toNat - 48) : Int))
      else .error (.integerTooLong ds.length)
  | ds =>
      if ds.length ≤ Text.Integer.maxDigits then
        .ok (Text.Integer.ofDigits (ds.map fun c => c.toNat - 48))
      else .error (.integerTooLong ds.length)

/-- Reads a number. -/
def number (text : Text) : Part text Json :=
  match whole text with
  | [] => .error (.fault .valueExpected text.length)
  | c :: w =>
      match text with
      | [] => .error (.fault .valueExpected 0)
      | d :: following =>
          let rest := following.drop w.length
          let part := fraction rest
          let rest' := rest.drop part.length
          let power := exponent rest'
          let end_ : { rest : Text // rest.length < (d :: following).length } :=
            ⟨rest'.drop power.length, by
              simp only [rest', rest, List.length_drop, List.length_cons]; omega⟩
          if part.isEmpty && power.isEmpty then
            match integerOf (c :: w) with
            | .ok n => .ok (.integer n, end_)
            | .error stop => .error stop
          else .ok (.numeral (c :: w ++ part ++ power), end_)

/-- The names that stand for a value. -/
def literals : List (Text × Json) :=
  [(Text.ofString "null", .null), (Text.ofString "true", .bool true),
   (Text.ofString "false", .bool false),
   (Text.ofString "NaN", .numeral (Text.ofString "NaN")),
   (Text.ofString "Infinity", .numeral (Text.ofString "Infinity")),
   (Text.ofString "-Infinity", .numeral (Text.ofString "-Infinity"))]

/-- Reads a value that is no string, array or object. -/
def scalar (text : Text) : Part text Json :=
  match text with
  | [] => .error (.fault .valueExpected 0)
  | c :: rest =>
      match literals.find? fun literal => literal.1.isPrefixOf (c :: rest) with
      | some literal =>
          .ok (literal.2, ⟨rest.drop (literal.1.length - 1), by
            simp only [List.length_drop, List.length_cons]; omega⟩)
      | none => number (c :: rest)

mutual

/-- Reads a value, with room for so many values inside of each other. -/
def value (room : Nat) (text : Text) : Part text Json :=
  match text with
  | '"' :: rest =>
      match stringBody (rest.length + 1) rest with
      | .error stop => .error stop
      | .ok (t, ⟨rest', h⟩) =>
          .ok (.string t, ⟨rest', by simp only [List.length_cons]; omega⟩)
  | '[' :: rest =>
      if room = 0 then .error (.tooDeep .array)
      else
      match hs : skipSpace rest with
      | ']' :: after =>
          .ok (.array [], ⟨after, by
            have := length_skipSpace_le rest
            simp only [hs, List.length_cons] at this ⊢; omega⟩)
      | _ =>
          match items (room - 1) (skipSpace rest) with
          | .error stop => .error stop
          | .ok (js, ⟨rest', h⟩) =>
              .ok (.array js, ⟨rest', by
                have := length_skipSpace_le rest
                simp only [List.length_cons]; omega⟩)
  | '\x7b' :: rest =>
      if room = 0 then .error (.tooDeep .object)
      else
      match hs : skipSpace rest with
      | '\x7d' :: after =>
          .ok (.object [], ⟨after, by
            have := length_skipSpace_le rest
            simp only [hs, List.length_cons] at this ⊢; omega⟩)
      | _ =>
          match members (room - 1) (skipSpace rest) with
          | .error stop => .error stop
          | .ok (rows, ⟨rest', h⟩) =>
              .ok (.object (Table.insertAll [] rows), ⟨rest', by
                have := length_skipSpace_le rest
                simp only [List.length_cons]; omega⟩)
  | other => scalar other
termination_by (text.length, 0)
decreasing_by
  all_goals
    have := length_skipSpace_le rest
    simp only [Prod.lex_def, List.length_cons]
    omega

/-- Reads the items of an array, of which there is at least one, and its closing
bracket. -/
def items (room : Nat) (text : Text) : Part text (List Json) :=
  match value room text with
  | .error stop => .error stop
  | .ok (j, ⟨rest, h⟩) =>
      match hs : skipSpace rest with
      | ']' :: after =>
          .ok ([j], ⟨after, by
            have := length_skipSpace_le rest
            simp only [hs, List.length_cons] at this; omega⟩)
      | ',' :: after =>
          match items room (skipSpace after) with
          | .error stop => .error stop
          | .ok (js, ⟨rest', h'⟩) =>
              .ok (j :: js, ⟨rest', by
                have := length_skipSpace_le rest
                have := length_skipSpace_le after
                simp only [hs, List.length_cons] at *; omega⟩)
      | other => .error (.fault .commaExpected other.length)
termination_by (text.length, 1)
decreasing_by
  · exact Prod.Lex.right _ Nat.zero_lt_one
  · have := length_skipSpace_le rest
    have := length_skipSpace_le after
    simp only [hs, List.length_cons] at *
    simp only [Prod.lex_def]
    omega

/-- Reads the members of an object, of which there is at least one, and its
closing brace. -/
def members (room : Nat) (text : Text) : Part text (List (Text × Json)) :=
  match text with
  | '"' :: quoted =>
      match stringBody (quoted.length + 1) quoted with
      | .error stop => .error stop
      | .ok (key, ⟨rest, h⟩) =>
          match hc : skipSpace rest with
          | ':' :: behind =>
              match value room (skipSpace behind) with
              | .error stop => .error stop
              | .ok (j, ⟨rest', h'⟩) =>
                  match hs : skipSpace rest' with
                  | '\x7d' :: after =>
                      .ok ([(key, j)], ⟨after, by
                        have := length_skipSpace_le rest
                        have := length_skipSpace_le behind
                        have := length_skipSpace_le rest'
                        simp only [hs, hc, List.length_cons] at *; omega⟩)
                  | ',' :: after =>
                      match members room (skipSpace after) with
                      | .error stop => .error stop
                      | .ok (rows, ⟨rest'', h''⟩) =>
                          .ok ((key, j) :: rows, ⟨rest'', by
                            have := length_skipSpace_le rest
                            have := length_skipSpace_le behind
                            have := length_skipSpace_le rest'
                            have := length_skipSpace_le after
                            simp only [hs, hc, List.length_cons] at *; omega⟩)
                  | other => .error (.fault .commaExpected other.length)
          | other => .error (.fault .colonExpected other.length)
  | _ => .error (.fault .propertyNameExpected text.length)
termination_by (text.length, 2)
decreasing_by
  · have := length_skipSpace_le rest
    have := length_skipSpace_le behind
    simp only [hc, List.length_cons] at *
    simp only [Prod.lex_def]
    omega
  · have := length_skipSpace_le rest
    have := length_skipSpace_le behind
    have := length_skipSpace_le rest'
    have := length_skipSpace_le after
    simp only [hs, hc, List.length_cons] at *
    simp only [Prod.lex_def]
    omega

end

/-- Why a text has no value. -/
inductive ReadFault where
  | malformed (fault : Fault)
  | integerTooLong (digits : Nat)
  | tooDeep (nesting : Nesting)
  deriving DecidableEq, Repr

/-- The wording of a read fault. -/
def ReadFault.message : ReadFault → Text
  | .malformed fault => fault.message
  | .integerTooLong digits => (Text.Integer.Fault.tooLong digits).message
  | .tooDeep nesting =>
      Text.ofString "maximum recursion depth exceeded while decoding a JSON "
        ++ Text.ofString
          (match nesting with | .array => "array" | .object => "object")
        ++ Text.ofString " from a unicode string"

/-- Reads a text that holds one value. -/
def parse (text : Text) : Except ReadFault Json :=
  let refuse (reason : Reason) (remaining : Nat) : ReadFault :=
    .malformed (Fault.at text reason (text.length - remaining))
  if text.head? = some '\uFEFF' then .error (refuse .byteOrderMark text.length)
  else
    match value maxDepth (skipSpace text) with
    | .error (.fault reason remaining) => .error (refuse reason remaining)
    | .error (.integerTooLong n) => .error (.integerTooLong n)
    | .error (.tooDeep nesting) => .error (.tooDeep nesting)
    | .ok (j, rest) =>
        match skipSpace rest.1 with
        | [] => .ok j
        | other => .error (refuse .extraData other.length)

end DiagnosticConsole.Json
