import DiagnosticConsole.Console.Session
import DiagnosticConsole.Proofs.Evaluation.History
import DiagnosticConsole.Proofs.Text.Ends

/-!
# A session evaluates the inputs of its script

A script is what is typed in a session: texts, interrupts, and the end. Some of
it is input: the texts that are not all blank, as far as the first event that
ends the session in order. `run_eq_evaluateAll` says that a session does nothing
but evaluate this input, one text after the other.

The evaluation of a list of inputs ends in one of two ways. Either each of them
returns, and then all of them have been run, in order and once; or there is a
first one that does not, and then that one is the last to have been run.
Blank texts and interrupts are no input, so it does not matter where there are
any.
-/

namespace DiagnosticConsole

namespace Evaluator

/-- Something holds of each of some inputs that are run one after the other, and
of the evaluator that runs it. -/
def Each (host : Host) (P : Evaluator → Text → Prop) :
    Evaluator → List Text → Prop
  | _, [] => True
  | e, text :: rest => P e text ∧ Each host P (e.run host text).1 rest

theorem Each.imp {host : Host} {P Q : Evaluator → Text → Prop}
    (himp : ∀ e text, P e text → Q e text) {e : Evaluator} {texts : List Text}
    (h : e.Each host P texts) : e.Each host Q texts := by
  induction texts generalizing e with
  | nil => exact h
  | cons text rest ih => exact ⟨himp e text h.1, ih h.2⟩

/-- Something holds of each of some inputs, or there is a first one that it does
not hold of. -/
theorem each_or_first_not (host : Host) (P : Evaluator → Text → Prop)
    (e : Evaluator) (texts : List Text) :
    e.Each host P texts
      ∨ ∃ before text later, texts = before ++ text :: later
        ∧ e.Each host P before ∧ ¬ P (e.runAll host before) text := by
  induction texts generalizing e with
  | nil => exact .inl trivial
  | cons text rest ih =>
      by_cases htext : P e text
      · rcases ih (e.run host text).1 with h | h
        · exact .inl ⟨htext, h⟩
        · obtain ⟨before, last, later, rfl, hbefore, hlast⟩ := h
          exact .inr ⟨text :: before, last, later, rfl, ⟨htext, hbefore⟩, hlast⟩
      · exact .inr ⟨[], text, rest, rfl, trivial, htext⟩

/-- Each of some inputs returns. -/
def Returns (host : Host) (e : Evaluator) (texts : List Text) : Prop :=
  e.Each host (fun e text => ∃ wentWell, (e.run host text).2 = .ok wentWell)
    texts

end Evaluator

namespace Session

/-! ## The input of a script -/

/-- Tests for what is typed. The other events are requests that a terminal makes
while a line is typed. -/
def Event.isTyped : Event → Bool
  | .submitted _ | .interrupted | .ended => true
  | .accept .. | .complete .. | .candidates .. => false

/-- Tests for an event that ends a session in order. -/
def Event.isLast : Event → Bool
  | .submitted text => isQuit text
  | .ended => true
  | _ => false

/-- The input that an event brings: a text that is not all blank. -/
def Event.input? : Event → Option Text
  | .submitted text => if text.all Text.isBlank then none else some text
  | _ => none

/-- Tests for an event that is not passed over. -/
def Event.isSignificant : Event → Bool
  | .submitted text => !text.all Text.isBlank
  | .interrupted => false
  | _ => true

/-- The inputs of a script: what its events bring, up to the first one that ends
the session. -/
def inputs (events : List Event) : List Text :=
  (events.takeWhile (!·.isLast)).filterMap Event.input?

theorem isBlank_eq (text : Text) : isBlank text = text.all Text.isBlank := by
  rw [isBlank, Bool.eq_iff_iff, List.isEmpty_iff]
  exact Text.trim_eq_nil_iff

/-- A blank text is no command to quit. -/
theorem isQuit_of_blank {text : Text} (h : text.all Text.isBlank = true) :
    isQuit text = false := by
  rw [isQuit, Text.trim_eq_nil_iff.mpr h]
  decide

theorem inputs_cons_of_last {event : Event} (h : event.isLast = true)
    (rest : List Event) : inputs (event :: rest) = [] := by
  rw [inputs, List.takeWhile_cons_of_neg (by simp [h])]
  rfl

theorem inputs_cons {event : Event} (h : event.isLast = false)
    (rest : List Event) :
    inputs (event :: rest) = event.input?.toList ++ inputs rest := by
  rw [inputs, List.takeWhile_cons_of_pos (by simp [h]), List.filterMap_cons]
  cases event.input? <;> rfl

/-! ## Evaluating a list of inputs -/

/-- Evaluates inputs one after the other, as far as they return. -/
def evaluateAll (host : Host) : State → List Text → State × Except Fault Unit
  | state, [] => (state, .ok ())
  | state, text :: rest =>
      match evaluate host state text with
      | .goOn state => evaluateAll host state rest
      | .finish state outcome => (state, outcome)

/-- What an event does to a session, if it is typed. -/
theorem step_of_typed {event : Event} (htyped : event.isTyped = true)
    (host : Host) (parser : LineParser) (state : State) :
    step host parser state event
      = if event.isLast then .finish state (.ok ())
        else
          match event.input? with
          | none => .goOn state
          | some text => evaluate host state text := by
  cases event with
  | submitted text =>
      rw [step, Event.isLast, Event.input?, isBlank_eq]
      split
      · rfl
      · split <;> rfl
  | interrupted => rfl
  | ended => rfl
  | accept | complete | candidates => cases htyped

/-- A session over a script evaluates its inputs. -/
theorem run_eq_evaluateAll {events : List Event}
    (htyped : ∀ event ∈ events, event.isTyped = true) (host : Host)
    (parser : LineParser) (state : State) :
    run host parser state events = evaluateAll host state (inputs events) := by
  induction events generalizing state with
  | nil => rfl
  | cons event rest ih =>
      have hrest : ∀ event ∈ rest, event.isTyped = true :=
        fun e he => htyped e (List.mem_cons_of_mem event he)
      rw [run, step_of_typed (htyped event List.mem_cons_self)]
      cases hlast : event.isLast with
      | true =>
          rw [inputs_cons_of_last hlast]
          rfl
      | false =>
          rw [inputs_cons hlast, if_neg Bool.false_ne_true]
          cases event.input? with
          | none => exact ih hrest state
          | some text =>
              simp only [Option.toList_some, List.singleton_append, evaluateAll]
              cases evaluate host state text with
              | goOn state => exact ih hrest state
              | finish state outcome => rfl

/-- A session in which some inputs have been run. -/
def State.afterInputs (state : State) (host : Host) (texts : List Text) :
    State :=
  { state with
    evaluator := state.evaluator.runAll host texts
    submitted := state.submitted + texts.length }

theorem afterInputs_append (state : State) (host : Host)
    (texts more : List Text) :
    (state.afterInputs host texts).afterInputs host more
      = state.afterInputs host (texts ++ more) := by
  simp only [State.afterInputs, Evaluator.runAll, List.foldl_append,
    List.length_append, Nat.add_assoc]

theorem evaluate_of_ok {host : Host} {state : State} {text : Text}
    {wentWell : Bool} (h : (state.evaluator.run host text).2 = .ok wentWell) :
    evaluate host state text = .goOn (state.afterInputs host [text]) := by
  rw [evaluate]
  split
  · next evaluator _ hrun =>
      rw [State.afterInputs, Evaluator.runAll, List.foldl_cons, hrun]
      rfl
  · next hrun =>
      rw [hrun] at h
      cases h

theorem evaluate_of_error {host : Host} {state : State} {text : Text}
    {escaped : Escaped}
    (h : (state.evaluator.run host text).2 = .error escaped) :
    evaluate host state text
      = .finish (state.afterInputs host [text])
          (.error (.evaluation escaped)) := by
  rw [evaluate]
  split
  · next hrun =>
      rw [hrun] at h
      cases h
  · next evaluator _ hrun =>
      rw [hrun] at h
      obtain rfl := Except.error.inj h
      rw [State.afterInputs, Evaluator.runAll, List.foldl_cons, hrun]
      rfl

/-- Inputs that return have all been run when the ones behind them are. -/
theorem evaluateAll_append {host : Host} {state : State} {texts : List Text}
    (h : state.evaluator.Returns host texts) (more : List Text) :
    evaluateAll host state (texts ++ more)
      = evaluateAll host (state.afterInputs host texts) more := by
  induction texts generalizing state with
  | nil => rfl
  | cons text rest ih =>
      obtain ⟨⟨wentWell, hok⟩, hrest⟩ := h
      have hafter := afterInputs_append state host [text] rest
      rw [List.singleton_append] at hafter
      rw [List.cons_append, evaluateAll, evaluate_of_ok hok, ← hafter]
      exact ih (show (state.afterInputs host [text]).evaluator.Returns host rest
        from hrest)

theorem evaluateAll_of_returns {host : Host} {state : State} {texts : List Text}
    (h : state.evaluator.Returns host texts) :
    evaluateAll host state texts = (state.afterInputs host texts, .ok ()) := by
  have hall := evaluateAll_append h []
  rw [List.append_nil] at hall
  exact hall

/-- The first input that does not return is the last one to be run. -/
theorem evaluateAll_of_escaped {host : Host} {state : State}
    {before : List Text} {text : Text} {escaped : Escaped}
    (hreturns : state.evaluator.Returns host before)
    (hescaped : ((state.evaluator.runAll host before).run host text).2
      = .error escaped)
    (later : List Text) :
    evaluateAll host state (before ++ text :: later)
      = (state.afterInputs host (before ++ [text]),
          .error (.evaluation escaped)) := by
  have hlast : ((state.afterInputs host before).evaluator.run host text).2
      = .error escaped := hescaped
  rw [evaluateAll_append hreturns, evaluateAll, evaluate_of_error hlast,
    afterInputs_append]

/-! ## What is passed over -/

/-- Interrupts and blank texts change nothing, wherever there are any. -/
theorem run_filter_isSignificant (host : Host) (parser : LineParser)
    (state : State) (events : List Event) :
    run host parser state (events.filter Event.isSignificant)
      = run host parser state events := by
  induction events generalizing state with
  | nil => rfl
  | cons event rest ih =>
      cases hsignificant : event.isSignificant with
      | true =>
          rw [List.filter_cons_of_pos hsignificant, run, run]
          cases step host parser state event with
          | goOn state => exact ih state
          | finish state outcome => rfl
      | false =>
          have hstep : step host parser state event = .goOn state := by
            cases event with
            | submitted text =>
                have hblank : text.all Text.isBlank = true :=
                  (Bool.not_eq_false' _).mp hsignificant
                rw [step, isQuit_of_blank hblank, isBlank_eq, hblank]
                rfl
            | interrupted => rfl
            | ended | accept | complete | candidates => cases hsignificant
          rw [List.filter_cons_of_neg (by simp [hsignificant]), run, hstep]
          exact ih state

/-! ## Whole sessions -/

/-- A session begins with no inputs behind it. -/
theorem recorded_setup {host : Host} {languages : Languages} {s : Settings}
    {config : SessionConfig} {begun : Setup}
    (h : setup host languages s config = .ok begun) :
    Evaluator.Recorded host [] begun.state.evaluator
      ∧ begun.state.submitted = 0 := by
  rw [setup] at h
  split at h
  · cases h
  · cases h
  · obtain rfl := Except.ok.inj h
    exact ⟨Evaluator.recorded_new host _ _, rfl⟩

theorem start_eq_report {host : Host} {languages : Languages} {s : Settings}
    {config : SessionConfig} {begun : Setup}
    (h : setup host languages s config = .ok begun) (events : List Event) :
    start host languages s config events
      = report (run host begun.parser begun.state events).1
          (run host begun.parser begun.state events).2 := by
  rw [start, h]

/-- A session evaluates the inputs of its script in order, each once, and returns
how many they are. Interrupts and blank texts make no difference to it. If one
of the inputs does not return, the session ends with what came instead, and that
input is the last to be evaluated. -/
theorem script_evaluates_inputs (host : Host) (languages : Languages)
    (s : Settings) (config : SessionConfig) {begun : Setup} {events : List Event}
    (hsetup : setup host languages s config = .ok begun)
    (htyped : ∀ event ∈ events, event.isTyped = true) :
    let e := begun.state.evaluator
    let finished := run host begun.parser begun.state events
    let report := start host languages s config events
    (e.Returns host (inputs events) →
      finished
          = ({ begun.state with
                evaluator := e.runAll host (inputs events)
                submitted := (inputs events).length }, .ok ())
        ∧ report.outcome = .ok (inputs events).length
        ∧ report.requests = Evaluator.requestsOf (inputs events))
    ∧ (∀ others : List Event,
      others.filter Event.isSignificant = events.filter Event.isSignificant →
      run host begun.parser begun.state others = finished
        ∧ start host languages s config others = report)
    ∧ ∀ before text later escaped, inputs events = before ++ text :: later →
      e.Returns host before →
      ((e.runAll host before).run host text).2 = .error escaped →
      finished
          = ({ begun.state with
                evaluator := e.runAll host (before ++ [text])
                submitted := (before ++ [text]).length },
              .error (.evaluation escaped))
        ∧ report.outcome = .error (.evaluation escaped)
        ∧ report.requests = Evaluator.requestsOf (before ++ [text]) := by
  intro e finished report
  obtain ⟨hrecorded, hsubmitted⟩ := recorded_setup hsetup
  have hafter : ∀ texts, begun.state.afterInputs host texts
      = { begun.state with
          evaluator := e.runAll host texts
          submitted := texts.length } := by
    intro texts
    rw [State.afterInputs, hsubmitted, Nat.zero_add]
  have hreport : report = Session.report finished.1 finished.2 :=
    start_eq_report hsetup events
  have hfinished : finished = evaluateAll host begun.state (inputs events) :=
    run_eq_evaluateAll htyped host begun.parser begun.state
  refine ⟨fun hreturns => ?_, fun others hothers => ?_,
    fun before text later escaped hinputs hreturns hescaped => ?_⟩
  · have hdone := hfinished.trans (evaluateAll_of_returns hreturns)
    rw [hafter] at hdone
    refine ⟨hdone, ?_, ?_⟩
    · rw [hreport, hdone]
      rfl
    · rw [hreport, hdone]
      exact (hrecorded.runAll (inputs events)).requests
  · have hrun : run host begun.parser begun.state others = finished := by
      rw [← run_filter_isSignificant, hothers, run_filter_isSignificant]
    refine ⟨hrun, ?_⟩
    rw [hreport, start_eq_report hsetup, hrun]
  · rw [hinputs, evaluateAll_of_escaped hreturns hescaped, hafter] at hfinished
    refine ⟨hfinished, ?_, ?_⟩
    · rw [hreport, hfinished]
      rfl
    · rw [hreport, hfinished]
      exact (hrecorded.runAll (before ++ [text])).requests

/-- One input between a blank text, an interrupt and a command to quit with
blanks around it; and a script whose second input of three asks for the end. -/
theorem script_evaluates_inputs_between_blanks :
    let exit : Exception :=
      { name := Text.ofString "SystemExit", family := .exit }
    let host : Host :=
      { compile := fun request =>
          if request.text = ['x'] then
            .ok { execution := { raised := some exit } }
          else .ok {}
        builtins := {}
        moduleName := {} }
    let languages : Languages := fun _ => some Mini.lexer
    let config := SessionConfig.ofSettings {}
    let sparse : List Event :=
      [.submitted [' '], .interrupted, .submitted ['a'],
       .submitted (Text.ofString " :q "), .submitted ['b']]
    let dense : List Event :=
      [.submitted ['a'], .submitted (Text.ofString " :q "), .submitted ['b']]
    let leaving : List Event :=
      [.submitted ['a'], .submitted ['x'], .submitted ['b']]
    ∃ begun, setup host languages {} config = .ok begun
      ∧ (∀ event ∈ sparse, event.isTyped = true)
      ∧ (∀ event ∈ leaving, event.isTyped = true)
      ∧ begun.state.evaluator.Returns host (inputs sparse)
      ∧ (start host languages {} config sparse).outcome = .ok 1
      ∧ start host languages {} config dense
        = start host languages {} config sparse
      ∧ (start host languages {} config leaving).outcome
        = .error (.evaluation (.raised exit))
      ∧ (start host languages {} config leaving).requests
        = Evaluator.requestsOf [['a'], ['x']] := by
  intro exit host languages config sparse dense leaving
  obtain ⟨begun, hsetup⟩ :
      ∃ begun, setup host languages {} config = .ok begun := ⟨_, rfl⟩
  have hevaluator : begun.state.evaluator.Returns host [['a']] :=
    ⟨⟨true, rfl⟩, trivial⟩
  have hsparse : ∀ event ∈ sparse, event.isTyped = true := by decide
  have hleaving : ∀ event ∈ leaving, event.isTyped = true := by decide
  have hfirst :=
    script_evaluates_inputs host languages {} config hsetup hsparse
  have hsecond :=
    script_evaluates_inputs host languages {} config hsetup hleaving
  have hreturns : begun.state.evaluator.Returns host (inputs sparse) :=
    hevaluator
  have hexit :=
    hsecond.2.2 [['a']] ['x'] [['b']] (.raised exit) rfl hevaluator rfl
  exact ⟨begun, hsetup, hsparse, hleaving, hreturns, (hfirst.1 hreturns).2.1,
    (hfirst.2.1 dense rfl).2, hexit.2⟩

end Session

end DiagnosticConsole
