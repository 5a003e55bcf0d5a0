import DiagnosticConsole.Proofs.Diagnostic.Extent
import DiagnosticConsole.Proofs.Diagnostic.Reporter
import Mathlib.Data.List.DropRight

/-!
# The account of a reporter

A reporter is asked for five things, in any order. What it has counted and
written after that can be told from the calls alone: the counts are of the
reports since the last reset, and what is written is one block after the other
(`Accounts`). A call that is added adds its own part to either
(`perform_eq`), so the account is kept call by call.

A report that cannot be drawn does not come back. It leaves the reporter as it
was, so the account is of the calls that come back.
-/

namespace DiagnosticConsole.Reporter

/-- What a reporter is asked for. -/
inductive Call where
  | report (message : Message) (position : Option Position)
  | printExplanation (message : Message)
  | printBlock (block : Block)
  | summary
  | reset

namespace Call

/-- Tests for a report of a message of a kind. -/
def reports (kind : String) : Call → Bool
  | report message _ => message.isOf kind
  | _ => false

/-- Tests for the call that starts the counts anew. -/
def isReset : Call → Bool
  | reset => true
  | _ => false

/-- Tests for a call that comes back; a report does if it can be drawn. -/
def returns (renderer : Renderer) : Call → Bool
  | report message position => (renderer.render? message position none none).isOk
  | _ => true

/-- The blocks of a call in the order in which they are written. -/
def blocks (renderer : Renderer) (explain : Bool) : Call → List Block
  | report message position =>
      renderer.render message position none none ::
        if explain && message.explanation?.isSome then
          [renderer.renderExplanation message]
        else []
  | printExplanation message => [renderer.renderExplanation message]
  | printBlock block => [block]
  | _ => []

end Call

/-- The reporter after a call, and what the call answers. -/
def perform (r : Reporter) : Call → Reporter × Except ExtentFault (Option Text)
  | .report message position =>
      match r.report? message position with
      | .ok r' => (r', .ok none)
      | .error fault => (r, .error fault)
  | .printExplanation message => (r.printExplanation message, .ok none)
  | .printBlock block => (r.printBlock block, .ok none)
  | .summary => (r, .ok (some r.summary))
  | .reset => (r.reset, .ok none)

/-- The reporter after some calls. -/
def performAll (r : Reporter) (calls : List Call) : Reporter :=
  calls.foldl (fun r call => (r.perform call).1) r

/-! ## One call -/

theorem report?_eq (r : Reporter) (message : Message) (position : Option Position) :
    r.report? message position =
      (r.renderer.render? message position none none).map
        fun _ => r.report message position := by
  rw [report?, Renderer.render?, Extent.drawn, Extent.drawn]
  cases Extent.checkAll r.renderer.room
    (r.renderer.runs message position none none) <;> rfl

theorem written_blocks_report (renderer : Renderer) (explain : Bool)
    (message : Message) (position : Option Position) :
    ((Call.report message position).blocks renderer explain).flatMap Block.written =
      renderer.told explain message position := by
  rw [Call.blocks, List.flatMap_cons, Renderer.told]
  congr 1
  cases explain with
  | false => rfl
  | true =>
      cases hsome : message.explanation? with
      | none => exact (written_renderExplanation_of_none renderer hsome).symm
      | some _ => exact List.append_nil _

/-- What a call does to a reporter. -/
theorem perform_eq (r : Reporter) (call : Call) :
    (r.perform call).1
      = { r with
          errors := if call.isReset then 0 else
            r.errors
              + if call.returns r.renderer && call.reports "error" then 1 else 0
          warnings := if call.isReset then 0 else
            r.warnings
              + if call.returns r.renderer && call.reports "warning" then 1 else 0
          written := r.written ++
            (if call.returns r.renderer then call.blocks r.renderer r.explain
              else []).flatMap Block.written } := by
  cases call with
  | report message position =>
      rw [perform, report?_eq]
      cases hrender : r.renderer.render? message position none none with
      | error fault =>
          simp [Call.returns, Call.isReset, hrender, Except.map, Except.toBool]
      | ok block =>
          simp [Call.returns, Call.isReset, Call.reports, hrender, Except.map,
            Except.toBool, report_eq, written_blocks_report]
  | printExplanation message =>
      simp [perform, Call.isReset, Call.reports, Call.returns, Call.blocks,
        printExplanation, printBlock_eq]
  | printBlock block =>
      simp [perform, Call.isReset, Call.reports, Call.returns, Call.blocks, printBlock_eq]
  | summary => simp [perform, Call.isReset, Call.reports, Call.returns, Call.blocks]
  | reset => simp [perform, Call.isReset, Call.returns, Call.blocks, reset]

theorem isOk_perform (r : Reporter) (call : Call) :
    (r.perform call).2.isOk = call.returns r.renderer := by
  cases call with
  | report message position =>
      rw [perform, report?_eq, Call.returns]
      cases r.renderer.render? message position none none <;> rfl
  | printExplanation | printBlock | summary | reset => rfl

/-! ## A run -/

/-- The calls since the last reset. -/
def sinceReset (calls : List Call) : List Call :=
  calls.rtakeWhile fun call => !call.isReset

/-- How many reports of a kind came back since the last reset. -/
def tally (renderer : Renderer) (kind : String) (calls : List Call) : Nat :=
  (sinceReset calls).countP fun call => call.returns renderer && call.reports kind

/-- The blocks of the calls that came back. -/
def blocksOf (renderer : Renderer) (explain : Bool) (calls : List Call) :
    List Block :=
  (calls.filter (·.returns renderer)).flatMap (·.blocks renderer explain)

/-- What a reporter has counted and written after some calls. -/
structure Accounts (renderer : Renderer) (explain : Bool) (calls : List Call)
    (r : Reporter) : Prop where
  sameRenderer : r.renderer = renderer
  sameExplain : r.explain = explain
  errors : r.errors = tally renderer "error" calls
  warnings : r.warnings = tally renderer "warning" calls
  written : r.written = (blocksOf renderer explain calls).flatMap Block.written

theorem tally_concat (renderer : Renderer) (kind : String) (calls : List Call)
    (call : Call) :
    tally renderer kind (calls ++ [call]) =
      if call.isReset then 0 else
        tally renderer kind calls +
          if call.returns renderer && call.reports kind then 1 else 0 := by
  rw [tally, sinceReset, List.rtakeWhile_concat]
  cases call.isReset with
  | true => rfl
  | false =>
      rw [Bool.not_false, if_pos rfl, List.countP_append, List.countP_singleton]
      rfl

theorem blocksOf_concat (renderer : Renderer) (explain : Bool) (calls : List Call)
    (call : Call) :
    blocksOf renderer explain (calls ++ [call]) =
      blocksOf renderer explain calls ++
        if call.returns renderer then call.blocks renderer explain else [] := by
  rw [blocksOf, List.filter_append, List.flatMap_append, List.filter_singleton]
  cases call.returns renderer with
  | false => rfl
  | true => exact congrArg (_ ++ ·) (List.append_nil _)

theorem Accounts.perform {renderer : Renderer} {explain : Bool} {calls : List Call}
    {r : Reporter} (h : Accounts renderer explain calls r) (call : Call) :
    Accounts renderer explain (calls ++ [call]) (r.perform call).1 := by
  rw [perform_eq]
  exact
    { sameRenderer := h.sameRenderer
      sameExplain := h.sameExplain
      errors := by simp only [tally_concat, h.errors, h.sameRenderer]
      warnings := by simp only [tally_concat, h.warnings, h.sameRenderer]
      written := by
        simp only [blocksOf_concat, List.flatMap_append, h.written, h.sameRenderer,
          h.sameExplain] }

theorem accounts_performAll (renderer : Renderer) (explain : Bool)
    (calls : List Call) :
    Accounts renderer explain calls (performAll { renderer, explain } calls) := by
  induction calls using List.reverseRecOn with
  | nil => exact ⟨rfl, rfl, rfl, rfl, rfl⟩
  | append_singleton calls call ih =>
      rw [performAll, List.foldl_append]
      exact ih.perform call

/-! ## The summary -/

/-- What a summary says of so many of a kind. -/
def foundLine (palette : Palette) (color : Color) (count : Nat) (noun : String) :
    Text :=
  Text.ofNat count ++ [' '] ++ palette.paint color (Text.ofString noun)
    ++ (if count = 1 then [] else ['s']) ++ Text.ofString " found"

/-- A summary of so many warnings and errors. -/
def summaryOf (palette : Palette) (warnings errors : Nat) : Text :=
  Text.join ['\n']
    ((if 0 < warnings then [foundLine palette .yellow warnings "warning"] else [])
      ++ if 0 < errors then [foundLine palette .red errors "error"] else [])

theorem summaryPart_eq (r : Reporter) (count : Nat) (color : Color) (noun : String) :
    r.summaryPart count color noun =
      if 0 < count then [foundLine r.renderer.palette color count noun] else [] := by
  rw [summaryPart]
  split
  · next hzero => rw [hzero]; rfl
  · next hzero =>
      rw [if_pos (Nat.pos_of_ne_zero hzero), countString_natCast, foundLine]

theorem summary_eq (r : Reporter) :
    r.summary = summaryOf r.renderer.palette r.warnings r.errors := by
  rw [summary, summaryPart_eq, summaryPart_eq]
  rfl

/-! ## What the calls come to -/

/-- A report on a page that is not too wide comes back if its carets and their
margin are not too long. -/
theorem Call.returns_report {renderer : Renderer} (message : Message)
    (position : Option Position)
    (hwidth : renderer.pageWidth ≤ Extent.longest renderer.room)
    (hmarker : ∀ p, position = some p →
      ((Renderer.lineLabel p).length : Int) + p.span.startColumn
          ≤ Extent.longest renderer.room
        ∧ Renderer.caretCount p ≤ Extent.longest renderer.room) :
    (Call.report message position).returns renderer = true := by
  rw [Call.returns, Renderer.render?_eq_ok renderer message position none none
    hwidth hmarker]
  rfl

theorem perform_of_not_returns {r : Reporter} {call : Call}
    (h : call.returns r.renderer = false) : (r.perform call).1 = r := by
  cases call with
  | report message position =>
      rw [perform, report?_eq]
      rw [Call.returns] at h
      cases hrender : r.renderer.render? message position none none with
      | error fault => rfl
      | ok block =>
          rw [hrender] at h
          cases h
  | printExplanation | printBlock | summary | reset => cases h

theorem perform_sameCounts (r : Reporter) {call : Call}
    (hreport : ∀ message position, call ≠ .report message position)
    (hreset : call ≠ .reset) : (r.perform call).1.SameCounts r := by
  cases call with
  | report message position => exact absurd rfl (hreport message position)
  | printExplanation message => exact printBlock_sameCounts _ _
  | printBlock block => exact printBlock_sameCounts _ _
  | summary => exact ⟨rfl, rfl⟩
  | reset => exact absurd rfl hreset

/-- After any calls in any order, the counts are of the reports since the last
reset that came back, and what is written is each block of the calls that came
back, in their order, an explanation right behind the diagnostic it belongs to.
A summary says just that and leaves everything as it is; so does a report that
cannot be drawn, and there is none on a page of a usual width. -/
theorem performAll_accounts (renderer : Renderer) (explain : Bool)
    (calls : List Call) :
    let r := performAll { renderer, explain } calls
    Accounts renderer explain calls r ∧
      (r.hasErrors = true ↔ 0 < tally renderer "error" calls) ∧
      r.perform .summary =
        (r, .ok (some (summaryOf renderer.palette (tally renderer "warning" calls)
          (tally renderer "error" calls)))) ∧
      (∀ call, (∀ message position, call ≠ .report message position) →
        call ≠ .reset → (r.perform call).1.SameCounts r) ∧
      (∀ call, (r.perform call).2.isOk = call.returns renderer) ∧
      (∀ call, call.returns renderer = false → (r.perform call).1 = r) ∧
      ∀ message position, renderer.pageWidth ≤ Extent.longest renderer.room →
        (∀ p, position = some p →
          ((Renderer.lineLabel p).length : Int) + p.span.startColumn
              ≤ Extent.longest renderer.room
            ∧ Renderer.caretCount p ≤ Extent.longest renderer.room) →
        (Call.report message position).returns renderer = true := by
  intro r
  have haccounts : Accounts renderer explain calls r :=
    accounts_performAll renderer explain calls
  refine ⟨haccounts, ?_, ?_, fun _ => r.perform_sameCounts, ?_, ?_,
    fun message position => Call.returns_report message position⟩
  · rw [hasErrors, decide_eq_true_iff, haccounts.errors]
  · rw [perform, summary_eq, haccounts.sameRenderer, haccounts.warnings,
      haccounts.errors]
  · intro call
    rw [isOk_perform, haccounts.sameRenderer]
  · intro call hcall
    exact perform_of_not_returns (by rw [haccounts.sameRenderer, hcall])

/-- On a page that is too wide to be drawn, an error is reported and not
counted. -/
theorem performAll_uncounted :
    let calls := [Call.report { text := ['t'], kind := Text.ofString "Error" } none]
    let r := performAll { renderer := { pageWidth := 9223372036854775900 } } calls
    (sinceReset calls).countP (·.reports "error") = 1 ∧ r.errors = 0 ∧
      r.hasErrors = false := by
  decide +kernel

end DiagnosticConsole.Reporter
