import DiagnosticConsole.Table

/-!
# JSON values

A number is an integer or keeps the numeral it was written as. An object is a
table: one row for each key, in the order in which the keys first came.
-/

namespace DiagnosticConsole

inductive Json where
  | null
  | bool (value : Bool)
  | integer (value : Int)
  /-- A number that is not an integer, as it was written. -/
  | numeral (text : Text)
  | string (text : Text)
  | array (items : List Json)
  | object (rows : List (Text × Json))
  deriving Repr, Inhabited

namespace Json

/-- The value at a key of an object. -/
def get? : Json → Text → Option Json
  | .object rows, key => Table.get? rows key
  | _, _ => none

/-- Tests for the null value. -/
def isNull : Json → Bool
  | .null => true
  | _ => false

end Json

end DiagnosticConsole
