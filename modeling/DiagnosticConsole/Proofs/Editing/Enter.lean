import DiagnosticConsole.Editing.Prompt

/-!
# What Enter does to a prompt

Enter looks at what follows the cursor and, if that is blank, asks whether the
text is complete; nothing else counts, and no other key asks. So one press has
three outcomes: the text is submitted as it stands, a line feed comes in at the
cursor, or the question itself fails (`press_enter`).

A prompt is a run of presses. Those that leave it open edit one buffer into
another (`Edits`), and reading keys goes through them and then does what the
next one says (`readKeys_append`). So a text that comes out of a prompt was in the
buffer when Enter was pressed, and Enter submitted it there
(`exists_edits_of_submitted`).
-/

namespace DiagnosticConsole

namespace Buffer

theorem insertText_text (b : Buffer) (t : Text) :
    (b.insertText t).text = b.text.take b.cursor ++ t ++ b.text.drop b.cursor :=
  rfl

theorem isAtEnd_iff {b : Buffer} :
    b.isAtEnd = true ↔ ∀ c ∈ b.text.drop b.cursor, Text.isBlank c = true := by
  rw [isAtEnd, tail, List.all_eq_true]

/-- Behind a cursor that only blanks follow there are only such cursors. -/
theorem isAtEnd_of_le {b b' : Buffer} (h : b.isAtEnd = true)
    (htext : b'.text = b.text) (hcursor : b.cursor ≤ b'.cursor) :
    b'.isAtEnd = true := by
  rw [isAtEnd_iff] at h ⊢
  rw [htext]
  intro c hc
  exact h c ((List.drop_sublist_drop_left b.text hcursor).mem hc)

end Buffer

namespace LineParser

variable {parser parser' : LineParser} {b b' : Buffer} {t : Text}

/-- Enter submits a buffer if all that follows the cursor is blank and the text
is complete. -/
structure Submits (parser : LineParser) (b : Buffer) : Prop where
  blank : ∀ c ∈ b.text.drop b.cursor, Text.isBlank c = true
  complete : parser.isIncomplete b.text = .ok false

/-- Keys that edit one buffer into another and leave the prompt open. -/
inductive Edits (parser : LineParser) : Buffer → List Key → Buffer → Prop where
  | nil {b : Buffer} : Edits parser b [] b
  | cons {b b' b'' : Buffer} {key : Key} {keys : List Key}
      (first : parser.press b key = .edited b') (rest : Edits parser b' keys b'') :
      Edits parser b (key :: keys) b''

/-! ## One press -/

/-- The outcomes of Enter. -/
theorem press_enter (parser : LineParser) (b : Buffer) :
    parser.press b .enter
      = if b.isAtEnd = true then
          match parser.isIncomplete b.text with
          | .ok true => .edited (b.insertText ['\n'])
          | .ok false => .ended (.submitted b.text)
          | .error e => .ended (.failed (.host e))
        else .edited (b.insertText ['\n']) := by
  rw [press]
  simp only [enter, Buffer.rule]
  by_cases hend : b.isAtEnd = true
  · simp only [if_pos hend]
    cases parser.isIncomplete b.text with
    | error e => rfl
    | ok incomplete => cases incomplete <;> rfl
  · simp only [if_neg hend]

theorem press_enter_of_submits (h : parser.Submits b) :
    parser.press b .enter = .ended (.submitted b.text) := by
  rw [press_enter, if_pos (Buffer.isAtEnd_iff.mpr h.blank), h.complete]

theorem press_enter_eq_submitted_iff :
    parser.press b .enter = .ended (.submitted t)
      ↔ t = b.text ∧ parser.Submits b := by
  constructor
  · intro h
    rw [press_enter] at h
    split at h
    · next hend =>
        split at h
        · cases h
        · next hcomplete =>
            cases h
            exact ⟨rfl, Buffer.isAtEnd_iff.mp hend, hcomplete⟩
        · cases h
    · cases h
  · rintro ⟨rfl, hsubmits⟩
    exact press_enter_of_submits hsubmits

/-- Where Enter does not submit it breaks the line, or there is no telling whether
the text is complete. -/
theorem press_enter_of_not_submits (h : ¬ parser.Submits b) :
    parser.press b .enter = .edited (b.insertText ['\n'])
      ∨ ∃ e, parser.isIncomplete b.text = .error e
        ∧ parser.press b .enter = .ended (.failed (.host e)) := by
  rw [press_enter]
  split
  · next hend =>
      split
      · exact .inl rfl
      · next hcomplete =>
          exact absurd ⟨Buffer.isAtEnd_iff.mp hend, hcomplete⟩ h
      · next e herror => exact .inr ⟨e, herror, rfl⟩
  · exact .inl rfl

/-- No key but Enter submits. -/
theorem eq_enter_of_press {key : Key}
    (h : parser.press b key = .ended (.submitted t)) : key = .enter := by
  cases key with
  | enter => rfl
  | endOrDelete =>
      rw [press] at h
      split at h <;> cases h
  | _ => cases h

/-- What a key does depends on the check by its answer about the text in the
buffer alone, and only for an Enter at the end. -/
theorem press_congr {key : Key}
    (h : key = .enter → b.isAtEnd = true →
      parser'.isIncomplete b.text = parser.isIncomplete b.text) :
    parser'.press b key = parser.press b key := by
  cases key with
  | enter =>
      rw [press_enter, press_enter]
      split
      · next hend => rw [h rfl hend]
      · rfl
  | _ => rfl

theorem asked_enter (parser : LineParser) (b : Buffer) :
    (parser.enter b).asked = if b.isAtEnd = true then [b.text] else [] := by
  show (b.rule parser.isIncomplete parser.continuationPrompt).asked = _
  rw [Buffer.rule]
  split <;> rfl

theorem Submits.of_le (h : parser.Submits b) (htext : b'.text = b.text)
    (hcursor : b.cursor ≤ b'.cursor) : parser.Submits b' := by
  have hend := Buffer.isAtEnd_of_le (Buffer.isAtEnd_iff.mpr h.blank) htext hcursor
  exact ⟨Buffer.isAtEnd_iff.mp hend, by rw [htext]; exact h.complete⟩

/-! ## A run of presses -/

theorem Edits.append {b'' : Buffer} {keys keys' : List Key}
    (h : parser.Edits b keys b') (h' : parser.Edits b' keys' b'') :
    parser.Edits b (keys ++ keys') b'' := by
  induction h with
  | nil => exact h'
  | cons first _ ih => exact .cons first (ih h')

theorem readKeys_append {keys : List Key} (h : parser.Edits b keys b')
    (rest : List Key) :
    parser.readKeys b (keys ++ rest) = parser.readKeys b' rest := by
  induction h with
  | nil => rfl
  | cons first _ ih =>
      rw [List.cons_append, readKeys, first]
      exact ih

theorem readKeys_of_ended {key : Key} {reason : PromptEnd}
    (h : parser.press b key = .ended reason) (rest : List Key) :
    parser.readKeys b (key :: rest) = (reason, rest) := by
  rw [readKeys, h]

/-- A submitted text was in the buffer when Enter was pressed, and Enter
submitted it. -/
theorem exists_edits_of_submitted {keys rest : List Key}
    (h : parser.readKeys b keys = (.submitted t, rest)) :
    ∃ typed b', keys = typed ++ .enter :: rest ∧ parser.Edits b typed b'
      ∧ t = b'.text ∧ parser.Submits b' := by
  induction keys generalizing b with
  | nil => cases h
  | cons key keys ih =>
      rw [readKeys] at h
      split at h
      · next b₁ hpress =>
          obtain ⟨typed, b', hkeys, hedits, hsubmits⟩ := ih h
          exact ⟨key :: typed, b', by rw [hkeys, List.cons_append],
            .cons hpress hedits, hsubmits⟩
      · next reason hpress =>
          obtain ⟨rfl, rfl⟩ := Prod.mk.inj h
          obtain rfl := eq_enter_of_press hpress
          exact ⟨[], b, rfl, .nil, press_enter_eq_submitted_iff.mp hpress⟩

/-- After some keys Enter ends the prompt with the text in the buffer just if it
submits that: a text that is submitted later leaves fewer keys behind. -/
theorem readKeys_enter_iff {typed rest : List Key}
    (h : parser.Edits b typed b') :
    parser.readKeys b (typed ++ .enter :: rest) = (.submitted b'.text, rest)
      ↔ parser.Submits b' := by
  rw [readKeys_append h]
  constructor
  · intro hread
    cases hpress : parser.press b' .enter with
    | ended reason =>
        rw [readKeys_of_ended hpress] at hread
        obtain ⟨rfl, -⟩ := Prod.mk.inj hread
        exact (press_enter_eq_submitted_iff.mp hpress).2
    | edited b'' =>
        rw [readKeys, hpress] at hread
        -- whatever is submitted later takes keys out of `rest`
        obtain ⟨later, -, hrest, -⟩ := exists_edits_of_submitted hread
        have hlength := congrArg List.length hrest
        rw [List.length_append, List.length_cons] at hlength
        omega
  · intro hsubmits
    exact readKeys_of_ended (press_enter_of_submits hsubmits) rest

end LineParser

namespace PromptState

theorem readLine_eq_submitted_iff {parser : LineParser} {pending : List Key}
    {isClosed : Bool} {state : PromptState} {t : Text} :
    ({ parser, pending, isClosed } : PromptState).readLine
        = (state, .ok (.submitted t))
      ↔ isClosed = false ∧ state = { parser, pending := state.pending }
        ∧ parser.readKeys .empty pending = (.submitted t, state.pending) := by
  rw [readLine]
  cases isClosed with
  | true => simp
  | false =>
      cases parser.readKeys .empty pending with
      | mk reason rest =>
          constructor
          · intro h
            obtain ⟨rfl, hreason⟩ := Prod.mk.inj h
            obtain rfl := Except.ok.inj hreason
            exact ⟨rfl, rfl, rfl⟩
          · rintro ⟨-, hstate, hread⟩
            obtain ⟨rfl, rfl⟩ := Prod.mk.inj hread
            rw [hstate]
            rfl

end PromptState

/-! ## Requests -/

namespace LineParser

variable {parser : LineParser} {b : Buffer} {t : Text} {cursor : Int}

theorem rule_eq_submit_iff (prompt : Text) :
    (b.rule parser.isIncomplete prompt).outcome = .ok .submit
      ↔ parser.Submits b := by
  rw [Buffer.rule]
  constructor
  · intro h
    split at h
    · next hend =>
        simp only [] at h
        split at h
        · cases h
        · next hcomplete => exact ⟨Buffer.isAtEnd_iff.mp hend, hcomplete⟩
        · cases h
    · cases h
  · rintro ⟨hblank, hcomplete⟩
    rw [if_pos (Buffer.isAtEnd_iff.mpr hblank), hcomplete]

theorem accept_eq_submit_iff :
    (parser.accept t cursor).outcome = .ok .submit
      ↔ ∃ b : Buffer, b.text = t ∧ (b.cursor : Int) = cursor ∧ parser.Submits b := by
  rw [accept, decideLine, Buffer.at?]
  by_cases h : 0 ≤ cursor ∧ cursor ≤ t.length
  · rw [dif_pos h]
    simp only []
    rw [rule_eq_submit_iff]
    constructor
    · intro hsubmits
      exact ⟨_, rfl, Int.toNat_of_nonneg h.1, hsubmits⟩
    · rintro ⟨b, rfl, rfl, hsubmits⟩
      exact hsubmits
  · rw [dif_neg h]
    refine iff_of_false nofun ?_
    rintro ⟨b, rfl, rfl, -⟩
    have := b.cursor_le_length
    omega

/-- The line editor is given a line to accept just where Enter would submit
it. -/
theorem parse_acceptLine_eq_line_iff {parsed : ParsedLine} :
    (parser.parse t cursor .acceptLine).outcome = .ok (.line parsed)
      ↔ parsed = { cursor, line := t }
        ∧ ∃ b : Buffer, b.text = t ∧ (b.cursor : Int) = cursor
          ∧ parser.Submits b := by
  rw [← accept_eq_submit_iff, parse]
  simp only []
  split
  · next hsubmit =>
      rw [hsubmit]
      simp [eq_comm]
  · next hbreak =>
      rw [hbreak]
      simp
  · next hfault =>
      rw [hfault]
      simp

/-- Only complete text is submitted, and Enter loses none. It submits where only
blanks follow the cursor and the text is complete; else it puts a line feed in at
the cursor, unless the check itself fails. What a prompt gives is the text that was
in the buffer at such an Enter, as it was. The check is asked by an Enter at the
end alone, once and about the text in the buffer, and matters to nothing else; so
behind a cursor at which Enter submits it submits everywhere, and the line editor
is given a line to accept where it does. -/
theorem enter_submits_complete (parser : LineParser) :
    (∀ (b : Buffer) (t : Text),
      parser.press b .enter = .ended (.submitted t)
        ↔ t = b.text ∧ parser.Submits b)
    ∧ (∀ b : Buffer, ¬ parser.Submits b →
      (∃ b', parser.press b .enter = .edited b'
          ∧ b'.text = b.text.take b.cursor ++ '\n' :: b.text.drop b.cursor
          ∧ b'.cursor = b.cursor + 1)
        ∨ ∃ e, parser.isIncomplete b.text = .error e
          ∧ parser.press b .enter = .ended (.failed (.host e)))
    ∧ (∀ (typed rest : List Key) (b : Buffer), parser.Edits .empty typed b →
      (({ parser, pending := typed ++ .enter :: rest } : PromptState).readLine
          = ({ parser, pending := rest }, .ok (.submitted b.text))
        ↔ parser.Submits b)
      ∧ ∀ b', parser.press b .enter = .edited b' →
        parser.Edits .empty (typed ++ [.enter]) b')
    ∧ (∀ (pending : List Key) (isClosed : Bool) (state : PromptState) (t : Text),
      ({ parser, pending, isClosed } : PromptState).readLine
          = (state, .ok (.submitted t)) →
        parser.isIncomplete t = .ok false
          ∧ ∃ typed b, pending = typed ++ .enter :: state.pending
            ∧ parser.Edits .empty typed b ∧ t = b.text ∧ parser.Submits b)
    ∧ (∀ b : Buffer,
      (parser.enter b).asked = [] ∨
        (parser.enter b).asked = [b.text]
          ∧ ∀ c ∈ b.text.drop b.cursor, Text.isBlank c = true)
    ∧ (∀ (other : LineParser) (b : Buffer) (key : Key),
      (key = .enter → b.isAtEnd = true →
        other.isIncomplete b.text = parser.isIncomplete b.text) →
      other.press b key = parser.press b key)
    ∧ (∀ b b' : Buffer, parser.Submits b → b'.text = b.text →
      b.cursor ≤ b'.cursor → parser.Submits b')
    ∧ ∀ (t : Text) (cursor : Int) (parsed : ParsedLine),
      (parser.parse t cursor .acceptLine).outcome = .ok (.line parsed)
        ↔ parsed = { cursor, line := t }
          ∧ ∃ b : Buffer, b.text = t ∧ (b.cursor : Int) = cursor
            ∧ parser.Submits b := by
  refine ⟨fun b t => press_enter_eq_submitted_iff, fun b h => ?_,
    fun typed rest b h => ⟨?_, fun b' hpress => ?_⟩,
    fun pending isClosed state t h => ?_, fun b => ?_,
    fun other b key h => press_congr h, fun b b' h => h.of_le,
    fun t cursor parsed => parse_acceptLine_eq_line_iff⟩
  · rcases press_enter_of_not_submits h with hbreak | hfail
    · refine .inl ⟨_, hbreak, ?_, rfl⟩
      rw [Buffer.insertText_text, List.append_assoc]
      rfl
    · exact .inr hfail
  · rw [PromptState.readLine_eq_submitted_iff, ← readKeys_enter_iff h]
    exact ⟨fun hread => hread.2.2, fun hread => ⟨rfl, rfl, hread⟩⟩
  · exact h.append (.cons hpress .nil)
  · obtain ⟨-, -, hread⟩ := PromptState.readLine_eq_submitted_iff.mp h
    obtain ⟨typed, b, hpending, hedits, htext, hsubmits⟩ :=
      exists_edits_of_submitted hread
    refine ⟨?_, typed, b, hpending, hedits, htext, hsubmits⟩
    rw [htext]
    exact hsubmits.complete
  · rw [asked_enter]
    split
    · next hend => exact .inr ⟨rfl, Buffer.isAtEnd_iff.mp hend⟩
    · exact .inl rfl

/-- Behind an open parenthesis Enter breaks the line. Behind the one that closes it
Enter submits in front of a blank, and the key after it is left. -/
theorem enter_submits_complete_parenthesis :
    let parser : LineParser :=
      { tokenizer := fun _ => { tokens := [] }
        isIncomplete := fun t => .ok (decide (t.count ')' < t.count '(')) }
    let opened : Buffer := ⟨['('], 1, by decide⟩
    let closed : Buffer := ⟨['(', '\n', ')', ' '], 3, by decide⟩
    let typed : List Key :=
      [.typed '(', .enter, .typed ')', .typed ' ', .left]
    ¬ parser.Submits opened
      ∧ (∃ b', parser.press opened .enter = .edited b'
        ∧ b'.text = ['(', '\n'] ∧ b'.cursor = 2)
      ∧ parser.Edits .empty typed closed
      ∧ (({ parser, pending := typed ++ [.enter, .typed 'x'] }
          : PromptState).readLine
        = ({ parser, pending := [.typed 'x'] }, .ok (.submitted closed.text)))
      ∧ (∃ later b, typed ++ [.enter, .typed 'x'] = later ++ [.enter, .typed 'x']
        ∧ parser.Edits .empty later b ∧ closed.text = b.text ∧ parser.Submits b)
      ∧ parser.Submits ⟨closed.text, 4, by decide⟩ := by
  intro parser opened closed typed
  have hopened : ¬ parser.Submits opened := fun h => nomatch h.complete
  have hclosed : parser.Submits closed := ⟨Buffer.isAtEnd_iff.mp rfl, rfl⟩
  have hedits : parser.Edits .empty typed closed :=
    .cons rfl (.cons rfl (.cons rfl (.cons rfl (.cons rfl .nil))))
  obtain ⟨-, hbreaks, hruns, hresults, -, -, hlater, -⟩ :=
    enter_submits_complete parser
  have hread := (hruns typed [.typed 'x'] closed hedits).1.mpr hclosed
  obtain ⟨-, hresult⟩ := hresults _ false _ _ hread
  refine ⟨hopened, ?_, hedits, hread, hresult, hlater closed _ hclosed rfl (by decide)⟩
  rcases hbreaks opened hopened with hbreak | ⟨e, herror, -⟩
  · exact hbreak
  · cases herror

end LineParser

end DiagnosticConsole
