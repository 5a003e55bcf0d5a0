import DiagnosticConsole.Evaluation.Evaluator
import DiagnosticConsole.Log
import DiagnosticConsole.Text.WordCharacter

/-!
# Candidates for completion

Behind a dotted name and a dot, the candidates are the attributes of what the
name stands for. Anywhere else they are the words of the language, the objects
that are always there, and the names of the session.
-/

namespace DiagnosticConsole

namespace Evaluation

/-- The words of the language. -/
def keywords : List Text :=
  ["False", "None", "True", "and", "as", "assert", "async", "await", "break",
   "class", "continue", "def", "del", "elif", "else", "except", "finally", "for",
   "from", "global", "if", "import", "in", "is", "lambda", "nonlocal", "not",
   "or", "pass", "raise", "return", "try", "while", "with", "yield"].map
    Text.ofString

/-- Tests for identifiers with a dot between each two; `inside` tells that an
identifier has begun. -/
def isDottedFrom : Bool → Text → Bool
  | inside, [] => inside
  | true, c :: rest =>
      if c = '.' then isDottedFrom false rest
      else Text.isWordCharacter c && isDottedFrom true rest
  | false, c :: rest => Text.isNameStart c && isDottedFrom true rest

/-- Tests for a dotted name. -/
def isDotted (t : Text) : Bool := isDottedFrom false t

/-- The text in front of a final dot, behind which there may be a line feed. -/
def beforeDot? (t : Text) : Option Text :=
  match t.reverse with
  | '.' :: rest => some rest.reverse
  | '\n' :: '.' :: rest => some rest.reverse
  | _ => none

/-- The ends of a text, the longest first. -/
def suffixes : Text → List Text
  | [] => [[]]
  | c :: rest => (c :: rest) :: suffixes rest

/-- The longest dotted name in front of the dot that a text ends in. -/
def dottedName? (t : Text) : Option Text :=
  (beforeDot? t).bind fun head => (suffixes head).find? isDotted

end Evaluation

namespace Evaluator

/-- What the first part of a dotted name stands for: a name of the session or an
object that is always there. -/
def lookup (host : Host) (evaluator : Evaluator) (head : Text) :
    Except Exception (Option HostObject) :=
  match Table.get? evaluator.bindings head with
  | some object => .ok (some object)
  | none =>
      match host.builtins.read head with
      | .ok object => .ok (some object)
      | .error e => if e.family = .missingAttribute then .ok none else .error e

/-- Reads attributes one after the other. -/
def readPath (object : HostObject) : List Text → Except Exception HostObject
  | [] => .ok object
  | name :: rest =>
      match object.read name with
      | .ok next => readPath next rest
      | .error e => .error e

/-- The attributes of what a dotted name stands for; none, with a notice, if they
cannot be listed and that can be told. -/
def attributes (host : Host) (evaluator : Evaluator) (dotted : Text) :
    Except Exception (List Text) × List Notice :=
  match Text.pieces '.' dotted with
  | [] => (.ok [], [])
  | head :: path =>
      match lookup host evaluator head with
      | .error e => (.error e, [])
      | .ok none => (.ok [], [])
      | .ok (some object) =>
          match (readPath object path).bind HostObject.list with
          | .ok names => (.ok names, [])
          | .error e =>
              match Notice.ofException
                  (Text.ofString "Cannot list attributes of " ++ dotted
                    ++ Text.ofString ": ") e with
              | .ok notice => (.ok [], [notice])
              | .error escaping => (.error escaping, [])

/-- The candidates for the word that begins at an offset of a text. -/
def candidates (host : Host) (evaluator : Evaluator) (text : Text)
    (wordStart : Int) : Except Exception (List Text) × List Notice :=
  match Evaluation.dottedName? (Text.before text wordStart) with
  | some dotted => attributes host evaluator dotted
  | none =>
      match host.builtins.list with
      | .ok names =>
          (.ok (Evaluation.keywords ++ names ++ evaluator.names), [])
      | .error e => (.error e, [])

end Evaluator

end DiagnosticConsole
