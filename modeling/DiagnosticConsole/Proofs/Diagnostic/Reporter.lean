import DiagnosticConsole.Diagnostic.Reporter

/-!
# What a report counts and writes

Blocks are written and messages are counted, and the one has nothing to do with
the other: writing leaves the counts alone, so a report counts what its message
is, whatever it writes and whether an explanation follows.

What a report writes is a text that the message and the renderer make
(`Renderer.told`); it goes behind what was written before and does not depend on
it (`report_eq`).
-/

namespace DiagnosticConsole

/-- What a block is written as. -/
def Block.written (block : Block) : Text :=
  if block.lines.isEmpty then [] else block.text ++ ['\n']

/-- What a message is told as, with its explanation if that is wanted. -/
def Renderer.told (renderer : Renderer) (explain : Bool) (message : Message)
    (position : Option Position) : Text :=
  (renderer.render message position none none).written
    ++ if explain then (renderer.renderExplanation message).written else []

theorem countString_natCast (n : Nat) (label : Text) :
    countString n label
      = Text.ofNat n ++ [' '] ++ label ++ if n = 1 then [] else ['s'] := by
  have hone : ((n : Int) = 1) = (n = 1) := propext (by omega)
  rw [countString]
  simp only [hone]
  rfl

/-- Tests for a message of a kind, in whatever case the kind is written. -/
def Message.isOf (message : Message) (kind : String) : Bool :=
  Text.lower message.kind = Text.ofString kind

namespace Reporter

/-- Two reporters have counted the same. -/
def SameCounts (r r' : Reporter) : Prop :=
  r.errors = r'.errors ∧ r.warnings = r'.warnings

theorem printBlock_sameCounts (r : Reporter) (block : Block) :
    (r.printBlock block).SameCounts r := by
  rw [printBlock]
  split
  · exact ⟨rfl, rfl⟩
  · exact ⟨rfl, rfl⟩

theorem SameCounts.trans {r r' r'' : Reporter} (h : r.SameCounts r')
    (h' : r'.SameCounts r'') : r.SameCounts r'' :=
  ⟨h.1.trans h'.1, h.2.trans h'.2⟩

/-- A report counts its message and nothing else. -/
theorem report_sameCounts (r : Reporter) (message : Message)
    (position : Option Position) :
    (r.report message position).SameCounts (r.count message) := by
  rw [report]
  split
  · exact (printBlock_sameCounts _ _).trans (printBlock_sameCounts _ _)
  · exact printBlock_sameCounts _ _

/-- An error is counted as one. -/
theorem count_of_error (r : Reporter) {message : Message}
    (h : Text.lower message.kind = Text.ofString "error") :
    r.count message = { r with errors := r.errors + 1 } := by
  rw [count, h]
  rfl

theorem printBlock_eq (r : Reporter) (block : Block) :
    r.printBlock block = { r with written := r.written ++ block.written } := by
  rw [printBlock, Block.written]
  split
  · rw [List.append_nil]
  · rw [List.append_assoc]

/-- A message adds one to the count of its kind, if there is one. -/
theorem count_eq (r : Reporter) (message : Message) :
    r.count message
      = { r with
          errors := r.errors + if message.isOf "error" then 1 else 0
          warnings := r.warnings + if message.isOf "warning" then 1 else 0 } := by
  have hdistinct : Text.ofString "error" ≠ Text.ofString "warning" := by decide
  simp only [count, Message.isOf, decide_eq_true_eq]
  by_cases herror : Text.lower message.kind = Text.ofString "error"
  · rw [herror, if_pos rfl, if_pos rfl, if_neg hdistinct]
    rfl
  · rw [if_neg herror, if_neg herror, Nat.add_zero]
    split <;> rfl

/-- A message without an explanation has nothing written about it. -/
theorem written_renderExplanation_of_none (renderer : Renderer) {message : Message}
    (h : message.explanation? = none) :
    (renderer.renderExplanation message).written = [] := by
  rw [Renderer.renderExplanation, h]
  rfl

/-- A message is counted and told, and nothing else happens to the reporter. -/
theorem report_eq (r : Reporter) (message : Message) (position : Option Position) :
    r.report message position
      = { r with
          errors := r.errors + if message.isOf "error" then 1 else 0
          warnings := r.warnings + if message.isOf "warning" then 1 else 0
          written :=
            r.written ++ r.renderer.told r.explain message position } := by
  rw [report, count_eq, Renderer.told, printBlock_eq]
  cases hexplain : r.explain with
  | false => simp only [Bool.false_and, Bool.false_eq_true, if_false,
      List.append_nil]
  | true =>
      cases hsome : message.explanation? with
      | none =>
          rw [written_renderExplanation_of_none r.renderer hsome]
          simp
      | some explanation =>
          simp only [Option.isSome_some, Bool.and_self, if_true,
            printExplanation, printBlock_eq, List.append_assoc]

theorem report_of_error (r : Reporter) {message : Message}
    (h : Text.lower message.kind = Text.ofString "error")
    (position : Option Position) :
    r.report message position
      = { r with
          errors := r.errors + 1
          written :=
            r.written ++ r.renderer.told r.explain message position } := by
  have hwarning : message.isOf "warning" = false := by
    rw [Message.isOf, h]
    decide
  have herror : message.isOf "error" = true := by
    rw [Message.isOf, h]
    decide
  rw [report_eq, herror, hwarning]
  rfl

end Reporter

end DiagnosticConsole
