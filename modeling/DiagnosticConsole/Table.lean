import DiagnosticConsole.Text.Basic

/-!
# Tables

A table has its rows in the order in which their keys first came. Setting a key
that is there keeps its place.
-/

namespace DiagnosticConsole

/-- Rows of a key and a value. -/
abbrev Table (α : Type) := List (Text × α)

namespace Table

variable {α : Type}

/-- The value at a key. -/
def get? (table : Table α) (key : Text) : Option α :=
  match table with
  | [] => none
  | (k, v) :: rest => if k = key then some v else get? rest key

/-- Tests whether a key is there. -/
def has (table : Table α) (key : Text) : Bool := (get? table key).isSome

/-- The table with a value at a key: in its place if the key is there, else as
the last row. -/
def insert (table : Table α) (key : Text) (value : α) : Table α :=
  match table with
  | [] => [(key, value)]
  | (k, v) :: rest =>
      if k = key then (k, value) :: rest else (k, v) :: insert rest key value

/-- The keys in order. -/
def keys (table : Table α) : List Text := table.map Prod.fst

/-- The rows of a list set one after the other. -/
def insertAll (table : Table α) (rows : List (Text × α)) : Table α :=
  rows.foldl (fun t row => insert t row.1 row.2) table

end Table

end DiagnosticConsole
