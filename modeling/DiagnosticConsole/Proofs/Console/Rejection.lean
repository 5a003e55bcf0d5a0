import DiagnosticConsole.Proofs.Console.Script
import DiagnosticConsole.Proofs.Editing.Enter
import DiagnosticConsole.Proofs.Evaluation.Check

/-!
# A text that the host rejects

A text is compiled at three places. The prompt asks whether it is complete, the
evaluator runs it, and a check takes it for a whole file. Each of them has its own
way to deal with a fault, but they tell the same faults from the same others. A
fault that is no concern of the console passes all three
(`reportCompileFault_of_passing`, `isUnfinished_of_passing`). The others count as
complete at the prompt, so that the text is submitted, and are told by the evaluator
and by the check in the same words (`reportCompileFault_of_drawable`). Neither of them
has words for a fault whose text cannot be read, but the prompt does not ask for any.

The words do not depend on what has been written before. So two reporters that
differ in that alone have written the same after it.
-/

namespace DiagnosticConsole

namespace CompileFault

/-- A fault that names no line before the first. -/
def IsPlaced : CompileFault → Prop
  | invalid fault => ∀ line, fault.line = some line → 1 ≤ line
  | raised _ => True

theorem tellable_iff {fault : CompileFault} :
    fault.Tellable
      ↔ fault.IsPlaced ∧ fault.isReported = true ∧ fault.textFault? = none := by
  cases fault with
  | invalid fault => exact ⟨fun h => ⟨h, rfl, rfl⟩, And.left⟩
  | raised x => exact ⟨fun h => ⟨trivial, h⟩, And.right⟩

theorem passing?_of_textFault? {fault : CompileFault} {x : Exception}
    (h : fault.isReported = true) (htext : fault.textFault? = some x) :
    (Failure.compiling fault).passing? = some x := by
  cases fault with
  | invalid fault => cases htext
  | raised y => exact (Failure.passing?_of_isAboutInput h).trans htext

theorem exists_raised_of_not_isReported {fault : CompileFault}
    (h : fault.isReported = false) :
    ∃ x, fault = .raised x ∧ x.isAboutInput = false := by
  cases fault with
  | invalid fault => cases h
  | raised x => exact ⟨x, rfl, h⟩

end CompileFault

namespace Evaluation

theorem isUnfinished_of_passing {host : Host} {text : Text} {x : Exception}
    (hfault : host.compile (completenessRequest text) = .error (.raised x))
    (h : x.isAboutInput = false) : isUnfinished host text = .error x := by
  rw [isUnfinished, hfault]
  simp only [h]
  rfl

theorem isUnfinished_of_reported {host : Host} {text : Text} {fault : CompileFault}
    (hfault : host.compile (completenessRequest text) = .error fault)
    (h : fault.isReported = true) : isUnfinished host text = .ok false := by
  rw [isUnfinished, hfault]
  cases fault with
  | invalid fault => rfl
  | raised x => exact if_pos h

end Evaluation

namespace Evaluator

/-- The host has the same fault to find with a text as the next input, as a file of
the console's name, and at the prompt. -/
structure Rejected (host : Host) (e : Evaluator) (text : Text)
    (fault : CompileFault) : Prop where
  input : host.compile (e.nextRequest text) = .error fault
  file : host.compile (inputSource text).request = .error fault
  prompt : host.compile (Evaluation.completenessRequest text) = .error fault

/-- The evaluator has told of a text, and so has the check of it, in the same words
and with a reporter that is the same but for what it had written. -/
structure ToldAlike (host : Host) (e : Evaluator) (text written told : Text) :
    Prop where
  run : (e.run host text).2 = .ok false
  runReporter : (e.run host text).1.reporter
    = { e.reporter with
        errors := e.reporter.errors + 1
        written := e.reporter.written ++ told }
  check : (Evaluation.checkFile host { e.reporter with written }
    Evaluation.consoleName text).outcome = .ok false
  checkReporter : (Evaluation.checkFile host { e.reporter with written }
      Evaluation.consoleName text).reporter
    = { e.reporter with
        errors := e.reporter.errors + 1
        written := written ++ told }

/-- The same has come out of the evaluator and of the check, and neither of them has
told of anything. -/
structure EscapesAlike (host : Host) (e : Evaluator) (text written : Text)
    (escaped : Escaped) : Prop where
  run : (e.run host text).2 = .error escaped
  runReporter : (e.run host text).1.reporter = e.reporter
  check : (Evaluation.checkFile host { e.reporter with written }
    Evaluation.consoleName text).outcome = .error escaped
  checkReporter : (Evaluation.checkFile host { e.reporter with written }
    Evaluation.consoleName text).reporter = { e.reporter with written }

section Handlers

variable {host : Host} {e : Evaluator} {text : Text} {fault : CompileFault}

theorem run_of_fault (h : host.compile (e.nextRequest text) = .error fault) :
    e.run host text
      = match Evaluation.reportCompileFault e.reporter (inputSource text) fault with
        | .ok reporter => ({ e.advanced host text with reporter }, .ok false)
        | .error escaped => (e.advanced host text, .error escaped) := by
  have hfailure : e.failure? host text = some (.compiling fault) := by
    rw [failure?, h]
  have hsettle := reportCompileFault_eq_settle (e.advanced host text) text fault
  rw [advanced_reporter] at hsettle
  rw [run_eq_settle, hfailure]
  exact hsettle.symm

theorem Rejected.toldAlike (h : e.Rejected host text fault)
    (htell : fault.Tellable)
    (hdraw : fault.Drawable e.reporter.renderer (inputSource text))
    (written : Text) :
    e.ToldAlike host text written
      (fault.told e.reporter.renderer e.reporter.explain (inputSource text)) := by
  have hrun := run_of_fault h.input
  rw [Evaluation.reportCompileFault_of_drawable htell hdraw] at hrun
  have hcheck := Evaluation.checkFile_of_fault { e.reporter with written } h.file
    htell hdraw
  rw [inputSource] at hcheck
  constructor
  · rw [hrun]
  · rw [hrun]
  · rw [hcheck]
  · rw [hcheck]
    rfl

theorem Rejected.escapesAlike {escaped : Escaped} {written : Text}
    (h : e.Rejected host text fault)
    (hescaped : ∀ r : Reporter, r.renderer = e.reporter.renderer →
      Evaluation.reportCompileFault r (inputSource text) fault = .error escaped) :
    e.EscapesAlike host text written escaped := by
  have hrun := run_of_fault h.input
  rw [hescaped e.reporter rfl] at hrun
  have hcheck := Evaluation.checkFile_of_escaped h.file
    (hescaped { e.reporter with written } rfl)
  rw [inputSource] at hcheck
  constructor
  · rw [hrun]
  · rw [hrun, advanced_reporter]
  · rw [hcheck]
  · rw [hcheck]

end Handlers

end Evaluator

namespace Session

/-- What is submitted goes to the evaluator, unless it is blank or a command to
quit. -/
theorem run_submitted_evaluator (host : Host) (parser : LineParser)
    (state : State) (text : Text) :
    (run host parser state [.submitted text]).1.evaluator
      = if isQuit text = true ∨ text.all Text.isBlank = true then state.evaluator
        else (state.evaluator.run host text).1 := by
  rw [run, step, isBlank_eq]
  by_cases hquit : isQuit text = true
  · rw [if_pos hquit, if_pos (.inl hquit)]
  · rw [if_neg hquit]
    by_cases hblank : text.all Text.isBlank = true
    · rw [if_pos hblank, if_pos (.inr hblank)]
      rfl
    · rw [if_neg hblank, if_neg (not_or_intro hquit hblank)]
      cases hrun : (state.evaluator.run host text).2 with
      | ok wentWell =>
          rw [evaluate_of_ok hrun]
          rfl
      | error escaped =>
          rw [evaluate_of_error hrun]
          rfl

end Session

/-- A text that the host rejects is dealt with alike wherever it is compiled. A fault
that is none of the console's business passes the evaluator, the check and the
question of completeness. Any other is told by the evaluator and the check in the same
words, or, if these cannot be read or drawn, ends both for the same reason; and the text
counts as complete. So Enter submits it where only blanks follow the cursor, and the
evaluator gets it unless it is blank or a command to quit. -/
theorem Evaluator.rejected_alike {host : Host} {e : Evaluator} {text : Text}
    {fault : CompileFault} (hrejected : e.Rejected host text fault)
    (hplaced : fault.IsPlaced) (written : Text) :
    (fault.isReported = false →
      ∃ x, fault = .raised x ∧ e.EscapesAlike host text written (.raised x)
        ∧ Evaluation.isUnfinished host text = .error x)
    ∧ (fault.isReported = true →
      (fault.textFault? = none →
        (fault.Drawable e.reporter.renderer (inputSource text) →
          e.ToldAlike host text written
            (fault.told e.reporter.renderer e.reporter.explain (inputSource text)))
        ∧ (¬ fault.Drawable e.reporter.renderer (inputSource text) →
          ∃ extent, e.EscapesAlike host text written (.oversized extent)))
      ∧ (∀ x, fault.textFault? = some x →
        e.EscapesAlike host text written (.raised x))
      ∧ Evaluation.isUnfinished host text = .ok false
      ∧ (∀ (parser : LineParser) (b : Buffer),
        parser.isIncomplete = Evaluation.isUnfinished host → b.text = text →
        (∀ c ∈ b.text.drop b.cursor, Text.isBlank c = true) →
        parser.press b .enter = .ended (.submitted text))
      ∧ ∀ (parser : LineParser) (state : Session.State), state.evaluator = e →
        (Session.run host parser state [.submitted text]).1.evaluator
          = if Session.isQuit text = true ∨ text.all Text.isBlank = true then e
            else (e.run host text).1) := by
  refine ⟨fun hpasses => ?_, fun hreported => ?_⟩
  · obtain ⟨x, rfl, hx⟩ := CompileFault.exists_raised_of_not_isReported hpasses
    exact ⟨x, rfl,
      hrejected.escapesAlike fun r _ =>
        Evaluation.reportCompileFault_of_passing r _
          (Failure.passing?_of_foreign hx),
      Evaluation.isUnfinished_of_passing hrejected.prompt hx⟩
  · have hcomplete := Evaluation.isUnfinished_of_reported hrejected.prompt hreported
    refine ⟨fun htext => ?_, fun x htext => hrejected.escapesAlike fun r _ =>
        Evaluation.reportCompileFault_of_passing r _
          (CompileFault.passing?_of_textFault? hreported htext),
      hcomplete, fun parser b hparser htext hblank => ?_,
      fun parser state hstate => ?_⟩
    · have htell : fault.Tellable :=
        CompileFault.tellable_iff.mpr ⟨hplaced, hreported, htext⟩
      refine ⟨fun hdraw => hrejected.toldAlike htell hdraw written, fun hdraw => ?_⟩
      cases hblock : e.reporter.renderer.render? fault.message
          (fault.position? (inputSource text)) none none with
      | ok block => exact absurd ⟨block, hblock⟩ hdraw
      | error extent =>
          refine ⟨extent, hrejected.escapesAlike fun r hr => ?_⟩
          exact Evaluation.reportCompileFault_of_undrawable htell (hr ▸ hblock)
    · have hsubmits : parser.Submits b :=
        ⟨hblank, by rw [hparser, htext]; exact hcomplete⟩
      rw [LineParser.press_enter_of_submits hsubmits, htext]
    · rw [Session.run_submitted_evaluator, hstate]

/-- A parenthesis that is never closed, in front of a blank: it is told by both
reporters and submitted in front of the blank. Running out of memory passes all. -/
theorem Evaluator.rejected_alike_unclosed :
    let fault : CompileFault :=
      .invalid
        { message := some (Text.ofString "'(' was never closed")
          line := some 1, offset := some 2 }
    let memory : Exception := { name := Text.ofString "MemoryError" }
    let rejecting (fault : CompileFault) : Host :=
      { compile := fun _ => .error fault, builtins := {}, moduleName := {} }
    let e : Evaluator :=
      { reporter :=
          { renderer := { pageWidth := 30, palette := { enabled := false } } }
        bindings := [] }
    let text : Text := ['f', '(', ' ']
    let parser : LineParser :=
      { tokenizer := fun _ => { tokens := [] }
        isIncomplete := Evaluation.isUnfinished (rejecting fault) }
    e.Rejected (rejecting fault) text fault
      ∧ fault.IsPlaced
      ∧ e.ToldAlike (rejecting fault) text ['x']
        (Text.ofString
          "-- Error: <console> ----------\n1:f( \n   ^\n   '(' was never closed\n")
      ∧ parser.press ⟨text, 2, by decide⟩ .enter = .ended (.submitted text)
      ∧ (Session.run (rejecting fault) parser { evaluator := e }
          [.submitted text]).1.evaluator = (e.run (rejecting fault) text).1
      ∧ e.EscapesAlike (rejecting (.raised memory)) text ['x'] (.raised memory)
      ∧ Evaluation.isUnfinished (rejecting (.raised memory)) text
        = .error memory := by
  intro fault memory rejecting e text parser
  have hrejected : ∀ fault, e.Rejected (rejecting fault) text fault :=
    fun _ => ⟨rfl, rfl, rfl⟩
  have hplaced : fault.IsPlaced := by
    intro line hline
    cases hline
    decide
  have hdraw : fault.Drawable e.reporter.renderer (inputSource text) := by
    refine CompileFault.drawable (by decide) fun p hp => ?_
    cases hp
    decide
  obtain ⟨-, hreported⟩ := rejected_alike (hrejected fault) hplaced ['x']
  obtain ⟨htold, -, -, henter, hsession⟩ := hreported rfl
  obtain ⟨x, hx, hescapes, hpasses⟩ :=
    (rejected_alike (hrejected (.raised memory)) trivial ['x']).1 rfl
  obtain rfl := CompileFault.raised.inj hx
  refine ⟨hrejected fault, hplaced, ?_,
    henter parser _ rfl rfl (Buffer.isAtEnd_iff.mp rfl), ?_, hescapes, hpasses⟩
  · convert (htold rfl).1 hdraw using 1
    decide +kernel
  · rw [hsession parser _ rfl, if_neg (by decide)]

/-- A fault at an offset that is no index ends the evaluator and the check, though
its text counts as complete. A command to quit is submitted and would be told of, but
no evaluator gets it. -/
theorem Evaluator.rejected_untold :
    let fault (offset : Int) : CompileFault :=
      .invalid
        { message := some (Text.ofString "invalid syntax")
          line := some 1, offset := some offset }
    let rejecting (offset : Int) : Host :=
      { compile := fun _ => .error (fault offset)
        builtins := {}, moduleName := {} }
    let e : Evaluator := { reporter := { renderer := {} }, bindings := [] }
    let parser : LineParser :=
      { tokenizer := fun _ => { tokens := [] }
        isIncomplete := Evaluation.isUnfinished (rejecting 1) }
    let quit : Text := [':', 'q']
    (e.Rejected (rejecting (Extent.pastIndexes + 1)) ['a']
        (fault (Extent.pastIndexes + 1))
      ∧ (fault (Extent.pastIndexes + 1)).IsPlaced
      ∧ Evaluation.isUnfinished (rejecting (Extent.pastIndexes + 1)) ['a'] = .ok false
      ∧ (e.run (rejecting (Extent.pastIndexes + 1)) ['a']).2
        = .error (.oversized .beyondIndex)
      ∧ (Evaluation.checkFile (rejecting (Extent.pastIndexes + 1)) e.reporter
          Evaluation.consoleName ['a']).outcome
        = .error (.oversized .beyondIndex))
    ∧ e.Rejected (rejecting 1) quit (fault 1)
      ∧ (fault 1).IsPlaced
      ∧ parser.press ⟨quit, 2, by decide⟩ .enter = .ended (.submitted quit)
      ∧ (e.run (rejecting 1) quit).2 = .ok false
      ∧ Session.run (rejecting 1) parser { evaluator := e } [.submitted quit]
        = ({ evaluator := e }, .ok ()) := by
  intro fault rejecting e parser quit
  have hplaced : ∀ offset, (fault offset).IsPlaced := by
    intro offset line hline
    cases hline
    decide
  refine ⟨⟨⟨rfl, rfl, rfl⟩, hplaced _, rfl, ?_, ?_⟩, ⟨rfl, rfl, rfl⟩, hplaced _, rfl,
    ?_, rfl⟩
  all_goals decide +kernel

end DiagnosticConsole
