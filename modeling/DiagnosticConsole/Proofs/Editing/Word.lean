import DiagnosticConsole.Editing.Word
import DiagnosticConsole.Proofs.Host.Exception
import DiagnosticConsole.Proofs.Language.Tokens

/-!
# The word that the cursor touches

Looking for a word goes through the tokens until one may be completed and has the
cursor in it or at an end of it. So the answer is settled by the tokens up to that
one, and what comes behind it, be it tokens or a failure, is not even looked at
(`locateWord_of_first`). Only where no token is touched does it matter how the
tokens end, and then a failure is as good as none, unless something comes out of the
handler that tells of it (`locateWord_of_untouched`).

Tokens may overlap, come in any order and go past the end of the text. As long as
a touched one begins in the text, the cursor still cuts what the text has of it in
two, the end of what stands in front of the cursor and the beginning of what
stands behind it (`Word.liesAt_ofToken`).
-/

namespace DiagnosticConsole

/-- A token that may be completed and that has the cursor in it or at an end of
it. -/
structure Token.Touched (token : Token) (cursor : Int) : Prop where
  isWord : token.IsWord
  start_le : token.start ≤ cursor
  le_stop : cursor ≤ token.stop

theorem Token.touched_iff {token : Token} {cursor : Int} :
    (token.isCompletable && token.touches cursor) = true
      ↔ token.Touched cursor := by
  have htouches : token.touches cursor = true
      ↔ token.start ≤ cursor ∧ cursor ≤ token.stop := by
    simp [touches]
  rw [Bool.and_eq_true, isCompletable_iff, htouches]
  exact ⟨fun h => ⟨h.1, h.2.1, h.2.2⟩,
    fun h => ⟨h.isWord, h.start_le, h.le_stop⟩⟩

/-! ## A cursor in a text -/

namespace Buffer

variable {text : Text} {cursor : Int}

theorem at?_eq_ok (h : 0 ≤ cursor ∧ cursor ≤ text.length) :
    ∃ b : Buffer, at? text cursor = .ok b ∧ b.text = text
      ∧ (b.cursor : Int) = cursor := by
  rw [at?, dif_pos h]
  exact ⟨_, rfl, rfl, Int.toNat_of_nonneg h.1⟩

theorem at?_eq_error (h : ¬ (0 ≤ cursor ∧ cursor ≤ text.length)) :
    at? text cursor = .error ⟨cursor, text.length⟩ := by
  rw [at?, dif_neg h]

end Buffer

/-! ## The search -/

section Search

variable {text : Text} {cursor : Int} {tokenizer : Tokenizer}

theorem locateWord_of_outside (h : ¬ (0 ≤ cursor ∧ cursor ≤ text.length)) :
    locateWord text cursor tokenizer
      = (.error (.cursor ⟨cursor, text.length⟩), []) := by
  rw [locateWord, Buffer.at?_eq_error h]

/-- The first of the touched tokens makes the word, whatever is behind it. -/
theorem locateWord_of_first (h : 0 ≤ cursor ∧ cursor ≤ text.length)
    {before after : List Token} {token : Token}
    (htokens : (tokenizer text).tokens = before ++ token :: after)
    (htouched : token.Touched cursor) (hfirst : ∀ t ∈ before, ¬ t.Touched cursor) :
    locateWord text cursor tokenizer
      = (.ok (Word.ofToken text cursor token), []) := by
  obtain ⟨b, hb, -⟩ := Buffer.at?_eq_ok h
  have hfind : (tokenizer text).tokens.find? (fun token =>
      token.isCompletable && token.touches cursor) = some token := by
    rw [htokens, List.find?_eq_some_iff_append]
    refine ⟨Token.touched_iff.mpr htouched, before, after, rfl, ?_⟩
    intro t ht
    rw [Bool.not_eq_true', ← Bool.not_eq_true, Token.touched_iff]
    exact hfirst t ht
  rw [locateWord, hb]
  simp only [hfind]

/-- Where no token is touched there is no word, unless the tokens end in a failure
and something comes out when it is told of. -/
theorem locateWord_of_untouched (h : 0 ≤ cursor ∧ cursor ≤ text.length)
    (huntouched : ∀ t ∈ (tokenizer text).tokens, ¬ t.Touched cursor) :
    locateWord text cursor tokenizer
      = match (tokenizer text).failure with
        | none => (.ok .empty, [])
        | some e =>
            match e.escaping? with
            | none =>
                (.ok .empty,
                  [.debug (Text.ofString "Completion tokenizer failed: "
                    ++ e.message)])
            | some escaping => (.error (.host escaping), []) := by
  obtain ⟨b, hb, -⟩ := Buffer.at?_eq_ok h
  have hfind : (tokenizer text).tokens.find? (fun token =>
      token.isCompletable && token.touches cursor) = none := by
    rw [List.find?_eq_none]
    intro t ht
    rw [Token.touched_iff]
    exact huntouched t ht
  rw [locateWord, hb]
  cases hend : (tokenizer text).failure with
  | none => simp only [hfind, hend]
  | some e =>
      simp only [hfind, hend, Notice.ofException_eq]
      cases e.escaping? <;> rfl

theorem exists_first_touched (cursor : Int) (tokens : List Token) :
    (∃ before token after, tokens = before ++ token :: after
        ∧ token.Touched cursor ∧ ∀ t ∈ before, ¬ t.Touched cursor)
      ∨ ∀ t ∈ tokens, ¬ t.Touched cursor := by
  cases hfind : tokens.find? fun t => t.isCompletable && t.touches cursor with
  | none =>
      rw [List.find?_eq_none] at hfind
      exact .inr fun t ht htouched => hfind t ht (Token.touched_iff.mpr htouched)
  | some token =>
      obtain ⟨htouched, before, after, htokens, hbefore⟩ :=
        List.find?_eq_some_iff_append.mp hfind
      refine .inl ⟨before, token, after, htokens, Token.touched_iff.mp htouched, ?_⟩
      intro t ht hother
      have := hbefore t ht
      rw [Token.touched_iff.mpr hother] at this
      cases this

/-- There is a word at a cursor in the text, if perhaps the empty one, unless the
tokenizer fails and something comes out when that is told of. -/
theorem locateWord_cases (hinside : 0 ≤ cursor ∧ cursor ≤ text.length)
    (tokenizer : Tokenizer) :
    (∃ word, (locateWord text cursor tokenizer).1 = .ok word)
      ∨ ∃ e escaping, (tokenizer text).failure = some e
        ∧ e.escaping? = some escaping
        ∧ (locateWord text cursor tokenizer).1 = .error (.host escaping) := by
  rcases exists_first_touched cursor (tokenizer text).tokens with
    ⟨before, token, after, htokens, htouched, hfirst⟩ | huntouched
  · rw [locateWord_of_first hinside htokens htouched hfirst]
    exact .inl ⟨_, rfl⟩
  · rw [locateWord_of_untouched hinside huntouched]
    cases (tokenizer text).failure with
    | none => exact .inl ⟨_, rfl⟩
    | some e =>
        cases hescaping : e.escaping? with
        | none =>
            refine .inl ⟨.empty, ?_⟩
            simp only [hescaping]
        | some escaping =>
            refine .inr ⟨e, escaping, rfl, hescaping, ?_⟩
            simp only [hescaping]

/-- There is a word exactly if a token is touched or nothing comes out when a failure
is told of. -/
theorem exists_locateWord_iff (hinside : 0 ≤ cursor ∧ cursor ≤ text.length) :
    (∃ word, (locateWord text cursor tokenizer).1 = .ok word)
      ↔ (∃ t ∈ (tokenizer text).tokens, t.Touched cursor)
        ∨ ∀ e, (tokenizer text).failure = some e → e.escaping? = none := by
  rcases exists_first_touched cursor (tokenizer text).tokens with
    ⟨before, token, after, htokens, htouched, hfirst⟩ | huntouched
  · rw [locateWord_of_first hinside htokens htouched hfirst]
    refine iff_of_true ⟨_, rfl⟩ (.inl ⟨token, ?_, htouched⟩)
    rw [htokens]
    exact List.mem_append_right _ List.mem_cons_self
  · have hnone : ¬ ∃ t ∈ (tokenizer text).tokens, t.Touched cursor :=
      fun ⟨t, ht, htouched⟩ => huntouched t ht htouched
    rw [locateWord_of_untouched hinside huntouched, or_iff_right hnone]
    cases (tokenizer text).failure with
    | none => exact iff_of_true ⟨_, rfl⟩ nofun
    | some e =>
        simp only [Option.some.injEq, forall_eq']
        cases e.escaping? with
        | none => exact iff_of_true ⟨_, rfl⟩ rfl
        | some escaping => exact iff_of_false nofun nofun

end Search

/-! ## A word around the cursor -/

namespace Word

/-- A word around a cursor: up to the cursor in it, it ends what stands in front of
the cursor in the text, and from there on it begins what stands behind. -/
structure LiesAt (word : Word) (text : Text) (cursor : Int) : Prop where
  cursor_nonneg : 0 ≤ word.cursor
  cursor_le_length : word.cursor ≤ word.text.length
  typed_isSuffix : word.typed <:+ Text.before text cursor
  rest_isPrefix : Text.after word.text word.cursor <+: Text.after text cursor

variable {text : Text} {cursor : Int}

theorem liesAt_empty (text : Text) (cursor : Int) : empty.LiesAt text cursor :=
  ⟨Int.le_refl 0, Int.le_refl 0, List.nil_suffix, List.nil_prefix⟩

theorem liesAt_slice {start cursor stop : Nat} (hstart : start ≤ cursor)
    (hstop : cursor ≤ stop) (hcursor : cursor ≤ text.length) :
    LiesAt ⟨Text.slice text start stop, (cursor : Int) - start⟩ text cursor := by
  have hcut := Text.slice_append_slice text hstart hstop
  have hlength : (Text.slice text start cursor).length = cursor - start := by
    rw [Text.length_slice, Nat.min_eq_left hcursor]
  have hplace : (cursor : Int) - start = (cursor - start : Nat) := by omega
  have htyped : (Text.slice text start stop).take (cursor - start)
      = Text.slice text start cursor := by
    rw [← hcut, ← hlength, List.take_left]
  have hrest : (Text.slice text start stop).drop (cursor - start)
      = Text.slice text cursor stop := by
    rw [← hcut, ← hlength, List.drop_left]
  refine ⟨?_, ?_, ?_, ?_⟩
  · show 0 ≤ (cursor : Int) - start
    omega
  · show (cursor : Int) - start ≤ (Text.slice text start stop).length
    rw [Text.length_slice]
    omega
  · show Text.before (Text.slice text start stop) (cursor - start) <:+ _
    rw [hplace, Text.before_natCast, Text.before_natCast, htyped,
      Text.slice_eq_drop_take]
    exact List.drop_suffix start _
  · show Text.after (Text.slice text start stop) (cursor - start) <+: _
    rw [hplace, Text.after_natCast, Text.after_natCast, hrest,
      Text.slice_eq_drop_take, List.drop_take]
    exact List.take_prefix _ _

theorem liesAt_ofToken {token : Token} (hcursor : cursor ≤ text.length)
    (htouched : token.Touched cursor) (hstart : 0 ≤ token.start) :
    (ofToken text cursor token).LiesAt text cursor := by
  have hle := htouched.start_le
  have hstop := htouched.le_stop
  obtain ⟨start, hs⟩ := Int.eq_ofNat_of_zero_le hstart
  obtain ⟨c, hc⟩ := Int.eq_ofNat_of_zero_le (Int.le_trans hstart hle)
  obtain ⟨stop, ht⟩ :=
    Int.eq_ofNat_of_zero_le (Int.le_trans hstart (Int.le_trans hle hstop))
  rw [ofToken, hs, hc, ht]
  exact liesAt_slice (by omega) (by omega) (by omega)

variable {word : Word}

theorem LiesAt.length_typed (h : word.LiesAt text cursor) :
    (word.typed.length : Int) = word.cursor := by
  obtain ⟨n, hn⟩ := Int.eq_ofNat_of_zero_le h.cursor_nonneg
  have hle := h.cursor_le_length
  rw [typed, hn, Text.before_natCast, List.length_take]
  omega

/-- What was typed of a word stands between where the word begins and the
cursor. -/
theorem LiesAt.before_append_typed (h : word.LiesAt text cursor)
    (hinside : 0 ≤ cursor ∧ cursor ≤ text.length) :
    0 ≤ cursor - word.cursor
      ∧ Text.before text (cursor - word.cursor) ++ word.typed
        = Text.before text cursor := by
  obtain ⟨c, rfl⟩ := Int.eq_ofNat_of_zero_le hinside.1
  obtain ⟨front, hfront⟩ := h.typed_isSuffix
  rw [Text.before_natCast] at hfront ⊢
  have htyped := h.length_typed
  have hle := hinside.2
  have hlength : front.length + word.typed.length = c := by
    rw [← List.length_append, hfront, List.length_take]
    omega
  have hplace : (c : Int) - word.cursor = (front.length : Nat) := by omega
  have hcut : (text.take c).take front.length = front := by
    rw [← hfront, List.take_left]
  rw [List.take_take, Nat.min_eq_left (by omega)] at hcut
  refine ⟨by omega, ?_⟩
  rw [hplace, Text.before_natCast, hcut, hfront]

theorem LiesAt.slice_eq_typed (h : word.LiesAt text cursor)
    (hinside : 0 ≤ cursor ∧ cursor ≤ text.length) :
    Text.slice text (cursor - word.cursor) cursor = word.typed := by
  obtain ⟨hstart, htext⟩ := h.before_append_typed hinside
  obtain ⟨n, hn⟩ := Int.eq_ofNat_of_zero_le hstart
  have hlength : (Text.before text n).length = Text.place text.length n := by
    rw [Text.before_natCast, List.length_take, Text.place_natCast]
  rw [Text.slice, ← htext, hn, List.drop_left' hlength]

theorem liesAt_of_locateWord {tokenizer : Tokenizer}
    (hinside : 0 ≤ cursor ∧ cursor ≤ text.length)
    (hstart : ∀ t ∈ (tokenizer text).tokens, 0 ≤ t.start)
    (h : (locateWord text cursor tokenizer).1 = .ok word) :
    word.LiesAt text cursor := by
  rcases exists_first_touched cursor (tokenizer text).tokens with
    ⟨before, token, after, htokens, htouched, hfirst⟩ | huntouched
  · rw [locateWord_of_first hinside htokens htouched hfirst] at h
    obtain rfl := Except.ok.inj h
    refine liesAt_ofToken hinside.2 htouched (hstart token ?_)
    rw [htokens]
    exact List.mem_append_right _ List.mem_cons_self
  · rw [locateWord_of_untouched hinside huntouched] at h
    split at h
    next =>
      obtain rfl := Except.ok.inj h
      exact liesAt_empty text cursor
    next e _ =>
      split at h
      next =>
        obtain rfl := Except.ok.inj h
        exact liesAt_empty text cursor
      next => cases h

end Word

/-- The word at a cursor is the text of the first token that may be completed and
has the cursor in it or at an end of it. All that comes behind that token, a
failure as well, makes no difference, and a token that begins in the text gives a
word around the cursor. Where there is no such token, an ordinary failure with a text
counts as the end of the tokens, and there is no word. What comes up when that text is
read comes out, and so does a failure that is not ordinary: in no other case is there
not even the empty word. A cursor that is not in the text is refused whatever the
tokenizer would do. -/
theorem locateWord_first_touched (text : Text) (cursor : Int)
    (tokenizer : Tokenizer) :
    (¬ (0 ≤ cursor ∧ cursor ≤ text.length) → ∀ other : Tokenizer,
      locateWord text cursor other
        = (.error (.cursor ⟨cursor, text.length⟩), []))
    ∧ (0 ≤ cursor ∧ cursor ≤ text.length →
      (∀ before token after,
        (tokenizer text).tokens = before ++ token :: after →
        token.Touched cursor → (∀ t ∈ before, ¬ t.Touched cursor) →
          (∀ other : Tokenizer,
            (∃ rest, (other text).tokens = before ++ token :: rest) →
            locateWord text cursor other
              = (.ok { text := Text.slice text token.start token.stop
                       cursor := cursor - token.start }, []))
          ∧ (0 ≤ token.start →
            Word.LiesAt
              { text := Text.slice text token.start token.stop
                cursor := cursor - token.start } text cursor))
      ∧ ((∀ t ∈ (tokenizer text).tokens, ¬ t.Touched cursor) →
        ((tokenizer text).failure = none →
          locateWord text cursor tokenizer = (.ok { text := [], cursor := 0 }, []))
        ∧ ∀ e, (tokenizer text).failure = some e →
          (e.isOrdinary = true → ∀ said, e.text = .ok said →
            (locateWord text cursor tokenizer).1 = .ok { text := [], cursor := 0 })
          ∧ (e.isOrdinary = true → ∀ fault, e.text = .error fault →
            locateWord text cursor tokenizer = (.error (.host fault), []))
          ∧ (e.isOrdinary = false →
            locateWord text cursor tokenizer = (.error (.host e), [])))
      ∧ ((∃ word, (locateWord text cursor tokenizer).1 = .ok word)
        ↔ (∃ t ∈ (tokenizer text).tokens, t.Touched cursor)
          ∨ ∀ e, (tokenizer text).failure = some e →
            e.isOrdinary = true ∧ ∃ said, e.text = .ok said)) := by
  refine ⟨fun houtside other => locateWord_of_outside houtside, fun hinside => ?_⟩
  refine ⟨?_, fun huntouched => ?_, ?_⟩
  · intro before token after _ htouched hfirst
    refine ⟨?_, Word.liesAt_ofToken hinside.2 htouched⟩
    intro other hother
    obtain ⟨rest, htokens⟩ := hother
    exact locateWord_of_first hinside htokens htouched hfirst
  · have hlocated := locateWord_of_untouched hinside huntouched
    refine ⟨fun hend => ?_, fun e hend => ?_⟩
    · rw [hlocated, hend]
      rfl
    · rw [hend] at hlocated
      refine ⟨fun hordinary said hsaid => ?_, fun hordinary fault hfault => ?_,
        fun hpasses => ?_⟩
      · have hnothing := Exception.escaping?_eq_none_iff.mpr ⟨hordinary, said, hsaid⟩
        simp only [hlocated, hnothing]
        rfl
      · have hcomes := Exception.text_eq_error_iff.mp hfault
        rw [← Exception.escaping?_of_ordinary hordinary] at hcomes
        simp only [hlocated, hcomes]
      · simp only [hlocated, Exception.escaping?_of_not_ordinary hpasses]
  · simp only [exists_locateWord_iff hinside, Exception.escaping?_eq_none_iff]

/-- Behind a token that is none, one past the end of the text is touched first, and
neither the token behind it nor the exit after that is met. A tokenizer that fails
before it gives such a token gives no word, and a cursor behind the text is refused
even if the tokenizer would exit at once. -/
theorem locateWord_first_touched_past_end :
    let text := Text.ofString "let x"
    let broken : Exception := { name := Text.ofString "ValueError", family := .value }
    let exit : Exception := { name := Text.ofString "SystemExit", family := .exit }
    let fails : Tokenizer := fun _ =>
      { tokens := [⟨0, 5, .other⟩], failure := some broken }
    let exits : Tokenizer := fun _ =>
      { tokens := [⟨0, 5, .other⟩, ⟨4, 9, .identifier⟩, ⟨0, 5, .keyword⟩]
        failure := some exit }
    let leaves : Tokenizer := fun _ => { tokens := [], failure := some exit }
    locateWord text 5 exits = (.ok ⟨['x'], 1⟩, [])
      ∧ Word.LiesAt ⟨['x'], 1⟩ text 5
      ∧ (locateWord text 5 fails).1 = .ok ⟨[], 0⟩
      ∧ locateWord text 6 leaves = (.error (.cursor ⟨6, 5⟩), []) := by
  intro text broken exit fails exits leaves
  have hother : ∀ t ∈ [Token.mk 0 5 .other], ¬ t.Touched 5 := by
    intro t ht h
    obtain rfl := List.mem_singleton.mp ht
    exact absurd (Token.isCompletable_iff.mpr h.isWord) (by decide)
  have hinside : (0 : Int) ≤ 5 ∧ (5 : Int) ≤ text.length := by decide
  obtain ⟨-, hfound⟩ := locateWord_first_touched text 5 exits
  obtain ⟨hsettled, hlies⟩ := (hfound hinside).1 [⟨0, 5, .other⟩]
    ⟨4, 9, .identifier⟩ [⟨0, 5, .keyword⟩] rfl ⟨.inl rfl, by decide, by decide⟩
    hother
  obtain ⟨-, hnone⟩ := locateWord_first_touched text 5 fails
  obtain ⟨-, hfailed⟩ := (hnone hinside).2.1 hother
  obtain ⟨houtside, -⟩ := locateWord_first_touched text 6 fails
  exact ⟨hsettled exits ⟨_, rfl⟩, hlies (by decide), (hfailed broken rfl).1 rfl [] rfl,
    houtside (by decide) leaves⟩

/-- A tokenizer fails with an exception that ordinary handlers catch and whose text
cannot be read, and another with one that they do not catch. -/
theorem locateWord_lets_failures_out :
    let fault : Exception := { name := Text.ofString "RuntimeError" }
    let unreadable : Exception :=
      { name := Text.ofString "Odd", textFaults := [fault.toRaised] }
    let stop : Exception :=
      { name := Text.ofString "Stop", argument := some ['m'], family := .fatal }
    let fails (e : Exception) : Tokenizer := fun _ =>
      { tokens := [], failure := some e }
    unreadable.isOrdinary = true
      ∧ locateWord ['a', 'b'] 1 (fails unreadable) = (.error (.host fault), [])
      ∧ locateWord ['a', 'b'] 1 (fails stop) = (.error (.host stop), []) :=
  ⟨rfl, rfl, rfl⟩

end DiagnosticConsole
