import DiagnosticConsole.Editing.LineParser

/-!
# Completions

What Tab offers: the distinct candidates that properly extend what was typed of
the word, in the order of code points. With nothing typed on a line that is
blank up to the cursor, Tab offers nothing and no candidates are asked for.
-/

namespace DiagnosticConsole

/-- What gives the candidates for a word: the text, where the word starts, and
what was typed of it. -/
abbrev CandidateSource :=
  Text → Int → Text → Except Exception (List Text) × List Notice

/-- A text that takes the place of what was typed; `start` is where that begins,
as seen from the cursor. -/
structure Completion where
  text : Text
  start : Int
  deriving DecidableEq, Repr

/-- What Tab offers, the questions put to the source of candidates, and what there
is to tell. -/
structure Offer where
  outcome : Except EditFault (List Completion)
  asked : List (Text × Int × Text) := []
  notices : List Notice := []

/-- The candidates that properly extend a text, each once and in order. -/
def extensions (typed : Text) (candidates : List Text) : List Text :=
  (Text.distinctInOrder candidates).filter fun name =>
    typed.isPrefixOf name && name ≠ typed

/-- What Tab offers in a document. -/
def LineParser.offer (parser : LineParser) (source : CandidateSource)
    (text : Text) (cursor : Int) : Offer :=
  match parser.complete text cursor with
  | (.error fault, notices) => { outcome := .error fault, notices }
  | (.ok parsed, notices) =>
      let typed := parsed.word.typed
      let wordStart := parsed.cursor - parsed.word.cursor
      if typed.isEmpty && (Text.trim (Text.before text wordStart)).isEmpty then
        { outcome := .ok [], notices }
      else
        let (candidates, more) := source text wordStart typed
        { asked := [(text, wordStart, typed)]
          notices := notices ++ more
          outcome :=
            match candidates with
            | .error e => .error (.host e)
            | .ok names =>
                .ok ((extensions typed names).map fun name =>
                  { text := name, start := -parsed.word.cursor }) }

/-- What Tab offers at a place of a text. -/
def LineParser.completions (parser : LineParser) (source : CandidateSource)
    (text : Text) (cursor : Int) : Offer :=
  match Buffer.document? text cursor with
  | .ok b => parser.offer source b.text b.cursor
  | .error fault => { outcome := .error fault }

end DiagnosticConsole
