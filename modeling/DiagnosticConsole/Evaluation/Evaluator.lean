import DiagnosticConsole.Evaluation.Check

/-!
# Evaluating console input

An evaluator runs one input after the other in one namespace. Every input is
compiled under a name of its own and, if it compiles, kept as a source, so that
a fault in a function is shown in the input that defined it, however long ago
that was.
-/

namespace DiagnosticConsole

/-- The state between two inputs. -/
structure Evaluator where
  reporter : Reporter
  bindings : Table HostObject
  /-- The inputs that compiled, by the names they were compiled under. -/
  sources : Table SourceFile := []
  /-- How many inputs there were. -/
  inputs : Nat := 0
  /-- What the host was asked to compile, in order. -/
  requests : List CompileRequest := []

namespace Evaluator

/-- The name under which the input of a number is compiled. -/
def consoleFilename (index : Int) : Text :=
  Text.ofString "<console#" ++ Text.ofInt index ++ ['>']

/-- The namespace of a new session. -/
def initialBindings (host : Host) : Table HostObject :=
  [(Text.ofString "__name__", host.moduleName)]

/-- What is reported of an exception of running code with a text. -/
def raisedMessage (e : Exception) (text : Text) : Message where
  text := if text.isEmpty then e.name else e.name ++ Text.ofString ": " ++ text
  explanation := Evaluation.trimmed e.explanation

/-- The evaluator after running compiled code. -/
def execute (evaluator : Evaluator) (execution : Execution) :
    Evaluator × Except Escaped Bool :=
  let after := { evaluator with
    bindings := Table.insertAll evaluator.bindings execution.bindings }
  match execution.raised with
  | none => (after, .ok true)
  | some e =>
      if e.family = .exit then (after, .error (.raised e))
      else
        match e.text with
        | .error fault => (after, .error (.raised fault))
        | .ok text =>
            match Evaluation.tracebackSite after.sources e.frames with
            | .error misplaced => (after, .error (.misplaced misplaced))
            | .ok site =>
                match Evaluation.reportMessage after.reporter
                    (raisedMessage e text) (site.map Position.ofSite) with
                | .ok reporter => ({ after with reporter }, .ok false)
                | .error escaped => (after, .error escaped)

/-- Compiles and runs an input. The result tells whether it went well; if not, it
was reported. -/
def run (host : Host) (evaluator : Evaluator) (text : Text) :
    Evaluator × Except Escaped Bool :=
  let number := evaluator.inputs + 1
  let filename := consoleFilename number
  let source : SourceFile := { path := Evaluation.consoleName, content := text }
  let request : CompileRequest := { text, filename, mode := .single }
  let asked := { evaluator with
    inputs := number, requests := evaluator.requests ++ [request] }
  match host.compile request with
  | .ok code =>
      execute { asked with sources := Table.insert asked.sources filename source }
        code.execution
  | .error fault =>
      match Evaluation.reportCompileFault asked.reporter source fault with
      | .ok reporter => ({ asked with reporter }, .ok false)
      | .error escaped => (asked, .error escaped)

/-- Runs inputs one after the other, whatever becomes of each. -/
def runAll (host : Host) (evaluator : Evaluator) (texts : List Text) : Evaluator :=
  texts.foldl (fun e text => (run host e text).1) evaluator

/-- The names of the namespace, in the order in which they were bound. -/
def names (evaluator : Evaluator) : List Text := Table.keys evaluator.bindings

end Evaluator

end DiagnosticConsole
