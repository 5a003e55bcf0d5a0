import DiagnosticConsole.Json.Basic

/-!
# Writing JSON

A value is written on one line without blanks, and in ASCII: any other character
is an escape of its code unit, or of the two units of its pair.
-/

namespace DiagnosticConsole.Json

/-- The escape of a code unit. -/
def unitEscape (n : Nat) : Text := Text.ofString "\\u" ++ Text.hex 4 n

/-- A character inside of a string. -/
def writeChar (c : Char) : Text :=
  let n := c.toNat
  if c = '"' || c = '\\' then ['\\', c]
  else if 0x20 ≤ n && n < 0x7F then [c]
  else if n < 0x10000 then unitEscape n
  else
    let m := n - 0x10000
    unitEscape (0xD800 + m / 0x400) ++ unitEscape (0xDC00 + m % 0x400)

/-- A string in its quotes. -/
def writeString (t : Text) : Text := '"' :: t.flatMap writeChar ++ ['"']

mutual

/-- A value as it is written. -/
def render : Json → Text
  | .null => Text.ofString "null"
  | .bool true => Text.ofString "true"
  | .bool false => Text.ofString "false"
  | .integer n => Text.ofInt n
  | .numeral t => t
  | .string t => writeString t
  | .array items => '[' :: Text.join [','] (renderItems items) ++ [']']
  | .object rows => '\x7b' :: Text.join [','] (renderRows rows) ++ ['\x7d']
termination_by j => sizeOf j

/-- The items of an array, each as it is written. -/
def renderItems : List Json → List Text
  | [] => []
  | item :: rest => render item :: renderItems rest
termination_by items => sizeOf items

/-- The rows of an object, each with its key in front. -/
def renderRows : List (Text × Json) → List Text
  | [] => []
  | (key, value) :: rest =>
      (writeString key ++ ':' :: render value) :: renderRows rest
termination_by rows => sizeOf rows

end

end DiagnosticConsole.Json
