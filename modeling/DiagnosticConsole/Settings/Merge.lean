import DiagnosticConsole.Json.Basic

/-!
# Merging settings

Members that override others take their place, unless both are objects: those
are merged in turn, however deep they are nested. (How deep values may be nested is
limited where they are read, and only there.) A null overrides nothing.
-/

namespace DiagnosticConsole.Settings

/-- The members of an object with those of another put over them. -/
def merge (base : List (Text × Json)) : List (Text × Json) → List (Text × Json)
  | [] => base
  | (_, .null) :: rest => merge base rest
  | (key, .object upper) :: rest =>
      match Table.get? base key with
      | some (.object lower) =>
          merge (Table.insert base key (.object (merge lower upper))) rest
      | _ => merge (Table.insert base key (.object upper)) rest
  | (key, value) :: rest => merge (Table.insert base key value) rest
termination_by overrides => sizeOf overrides

end DiagnosticConsole.Settings
