import DiagnosticConsole.Proofs.Diagnostic.Reporter
import DiagnosticConsole.Proofs.Evaluation.Run

/-!
# A file that does not compile

Checking a file asks the host once, and tells what the host says against the
file. What is told follows from the file and the fault; the reporter that tells
it has counted one error more and written the diagnostic behind what it had, and
nothing else becomes of it (`checkFile_of_fault`).

Two things are asked of the fault for that: that it is one a check tells of, with
a line that there may be or a text that can be read (`CompileFault.Tellable`), and
that its diagnostic can be drawn. If it cannot, nothing at all becomes of the
reporter, and the check of the file does not come to an end
(`checkFile_of_undrawable`).
-/

namespace DiagnosticConsole

/-- What the host is asked for a file. -/
def SourceFile.request (source : SourceFile) : CompileRequest where
  text := source.content
  filename := source.path
  mode := .file

namespace CompileFault

/-- What reading the text of a fault raises, if it cannot be read. -/
def textFault? : CompileFault → Option Exception
  | invalid _ => none
  | raised e => e.textFault?

/-- A fault that is told of: a syntax fault without a line or on one from the
first, or an exception that a compiler raises about its input, with a text that can be
read. -/
def Tellable : CompileFault → Prop
  | invalid fault => ∀ line, fault.line = some line → 1 ≤ line
  | raised e => e.isAboutInput = true ∧ e.textFault? = none

/-- What there is to say of a fault. -/
def message (fault : CompileFault) : Message := (Failure.compiling fault).message

/-- Where a source has a fault, if that has a place. -/
def position? (source : SourceFile) : CompileFault → Option Position
  | invalid fault =>
      match Evaluation.syntaxSpan fault with
      | .ok (some span) => some (Position.ofSite { source, span })
      | _ => none
  | raised _ => none

/-- What a fault of a source is told as. -/
def told (renderer : Renderer) (explain : Bool) (source : SourceFile)
    (fault : CompileFault) : Text :=
  renderer.told explain fault.message (fault.position? source)

/-- The diagnostic of a fault of a source can be drawn. -/
def Drawable (renderer : Renderer) (source : SourceFile)
    (fault : CompileFault) : Prop :=
  ∃ block, renderer.render? fault.message (fault.position? source) none none
    = .ok block

theorem drawable {renderer : Renderer} {source : SourceFile}
    {fault : CompileFault} (hwidth : renderer.pageWidth ≤ Extent.longest renderer.room)
    (hmarker : ∀ p, fault.position? source = some p →
      ((Renderer.lineLabel p).length : Int) + p.span.startColumn
          ≤ Extent.longest renderer.room
        ∧ Renderer.caretCount p ≤ Extent.longest renderer.room) :
    fault.Drawable renderer source :=
  ⟨_, renderer.render?_eq_ok fault.message _ none none hwidth hmarker⟩

end CompileFault

namespace Evaluation

theorem reportMessage_of_drawn {r : Reporter} {message : Message}
    {position : Option Position} {block : Block}
    (h : r.renderer.render? message position none none = .ok block) :
    reportMessage r message position = .ok (r.report message position) := by
  have hruns := (Extent.drawn_eq_ok_iff.mp h).1
  have hreport : r.report? message position = .ok (r.report message position) :=
    Extent.drawn_eq_ok_iff.mpr ⟨hruns, rfl⟩
  rw [reportMessage, hreport]

theorem reportMessage_of_undrawable {r : Reporter} {message : Message}
    {position : Option Position} {extent : ExtentFault}
    (h : r.renderer.render? message position none none = .error extent) :
    reportMessage r message position = .error (.oversized extent) := by
  have hruns := Extent.drawn_eq_error_iff.mp h
  have hreport : r.report? message position = .error extent :=
    Extent.drawn_eq_error_iff.mpr hruns
  rw [reportMessage, hreport]

theorem reportCompileFault_of_tellable (r : Reporter) (source : SourceFile)
    {fault : CompileFault} (h : fault.Tellable) :
    reportCompileFault r source fault
      = reportMessage r fault.message (fault.position? source) := by
  match fault with
  | .invalid fault =>
      rw [reportCompileFault, CompileFault.position?]
      cases hline : fault.line with
      | none =>
          rw [syntaxSpan, hline]
          rfl
      | some line =>
          obtain ⟨span, hspan, -⟩ := syntaxSpan_eq_ok hline (h line hline)
          rw [hspan]
          rfl
  | .raised e =>
      rw [reportCompileFault, if_pos h.1, e.text_eq, h.2]
      rfl

/-- A fault that an exception comes out of is not told of. -/
theorem reportCompileFault_of_passing (r : Reporter) (source : SourceFile)
    {fault : CompileFault} {x : Exception}
    (h : (Failure.compiling fault).passing? = some x) :
    reportCompileFault r source fault = .error (.raised x) := by
  match fault with
  | .invalid fault => cases h
  | .raised e =>
      rw [reportCompileFault]
      cases habout : e.isAboutInput with
      | true =>
          rw [Failure.passing?_of_isAboutInput habout] at h
          rw [if_pos rfl, e.text_eq, h]
      | false =>
          rw [Failure.passing?_of_foreign habout] at h
          obtain rfl := Option.some.inj h
          rw [if_neg Bool.false_ne_true]

/-- A fault whose diagnostic can be drawn is told and counted as one error. -/
theorem reportCompileFault_of_drawable {r : Reporter} {source : SourceFile}
    {fault : CompileFault} (htell : fault.Tellable)
    (hdraw : fault.Drawable r.renderer source) :
    reportCompileFault r source fault
      = .ok
          { r with
            errors := r.errors + 1
            written := r.written ++ fault.told r.renderer r.explain source } := by
  obtain ⟨block, hblock⟩ := hdraw
  have hkind : Text.lower fault.message.kind = Text.ofString "error" :=
    Failure.lower_message_kind (.compiling fault)
  rw [reportCompileFault_of_tellable r source htell,
    reportMessage_of_drawn hblock, Reporter.report_of_error r hkind]
  rfl

theorem reportCompileFault_of_undrawable {r : Reporter} {source : SourceFile}
    {fault : CompileFault} {extent : ExtentFault} (htell : fault.Tellable)
    (hdraw : r.renderer.render? fault.message (fault.position? source) none none
      = .error extent) :
    reportCompileFault r source fault = .error (.oversized extent) := by
  rw [reportCompileFault_of_tellable r source htell,
    reportMessage_of_undrawable hdraw]

theorem reported_eq (r : Reporter) (request : CompileRequest)
    (reported : Except Escaped Reporter) :
    Checked.reported r request reported
      = match reported with
        | .ok reporter => { reporter, request, outcome := .ok false }
        | .error escaped =>
            { reporter := r, request, outcome := .error escaped } := by
  cases reported <;> rfl

/-- A file that does not compile is told of as an input of the console is. -/
theorem checkFile_eq (host : Host) (r : Reporter) (source : SourceFile) :
    checkFile host r source.path source.content
      = match host.compile source.request with
        | .ok _ =>
            { reporter := r, request := source.request, outcome := .ok true }
        | .error fault =>
            match reportCompileFault r source fault with
            | .ok reporter =>
                { reporter, request := source.request, outcome := .ok false }
            | .error escaped =>
                { reporter := r, request := source.request
                  outcome := .error escaped } := by
  rw [checkFile]
  simp only []
  rw [show (CompileRequest.mk source.content source.path .file)
    = source.request from rfl]
  cases host.compile source.request with
  | ok code => rfl
  | error fault =>
      cases fault with
      | invalid fault =>
          simp only [reportCompileFault]
          cases syntaxSpan fault with
          | error misplaced => rfl
          | ok span => exact reported_eq r source.request _
      | raised e =>
          obtain ⟨⟨_, _, _, family, _⟩, textFaults⟩ := e
          cases family with
          | overflow | value =>
              cases textFaults with
              | nil => exact reported_eq r source.request _
              | cons fault rest => rfl
          | missingAttribute | exit | ordinary | fatal => rfl

/-- What becomes of a file that does not compile. -/
theorem checkFile_of_fault {host : Host} (r : Reporter) {source : SourceFile}
    {fault : CompileFault} (hfault : host.compile source.request = .error fault)
    (htell : fault.Tellable) (hdraw : fault.Drawable r.renderer source) :
    checkFile host r source.path source.content
      = { reporter :=
            { r with
              errors := r.errors + 1
              written := r.written ++ fault.told r.renderer r.explain source }
          request := source.request
          outcome := .ok false } := by
  rw [checkFile_eq, hfault]
  simp only [reportCompileFault_of_drawable htell hdraw]

/-- Where a fault is not told, the check of the file does not come to an end. -/
theorem checkFile_of_escaped {host : Host} {r : Reporter} {source : SourceFile}
    {fault : CompileFault} {escaped : Escaped}
    (hfault : host.compile source.request = .error fault)
    (hescaped : reportCompileFault r source fault = .error escaped) :
    checkFile host r source.path source.content
      = { reporter := r, request := source.request, outcome := .error escaped } := by
  rw [checkFile_eq, hfault]
  simp only [hescaped]

theorem checkFile_of_undrawable {host : Host} (r : Reporter)
    {source : SourceFile} {fault : CompileFault} {extent : ExtentFault}
    (hfault : host.compile source.request = .error fault)
    (htell : fault.Tellable)
    (hdraw : r.renderer.render? fault.message (fault.position? source) none none
      = .error extent) :
    checkFile host r source.path source.content
      = { reporter := r
          request := source.request
          outcome := .error (.oversized extent) } :=
  checkFile_of_escaped hfault (reportCompileFault_of_undrawable htell hdraw)

/-- What becomes of a file that compiles. -/
theorem checkFile_of_code {host : Host} (r : Reporter) {source : SourceFile}
    {code : Code} (hcode : host.compile source.request = .ok code) :
    checkFile host r source.path source.content
      = { reporter := r, request := source.request, outcome := .ok true } := by
  rw [checkFile_eq, hcode]

end Evaluation

end DiagnosticConsole
