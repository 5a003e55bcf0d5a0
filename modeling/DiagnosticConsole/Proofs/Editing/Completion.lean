import DiagnosticConsole.Editing.Completion
import DiagnosticConsole.Proofs.Editing.Word
import DiagnosticConsole.Proofs.Text.Ends
import DiagnosticConsole.Proofs.Text.Order

/-!
# What Tab offers

The completions are the candidates that properly extend what was typed, each once
and in order, so they are settled by which candidates there are
(`extensions_congr`). What was typed ends at the cursor, and a completion begins
that many characters in front of it. So a completion that is put in takes the place
of what was typed and of nothing else (`Buffer.complete?_eq_some`).
-/

namespace DiagnosticConsole

/-! ## The candidates that are offered -/

theorem mem_extensions {typed name : Text} {names : List Text} :
    name ∈ extensions typed names
      ↔ name ∈ names ∧ typed <+: name ∧ name ≠ typed := by
  rw [extensions, List.mem_filter, Text.mem_distinctInOrder, Bool.and_eq_true,
    List.isPrefixOf_iff_prefix, decide_eq_true_iff]

theorem pairwise_extensions (typed : Text) (names : List Text) :
    (extensions typed names).Pairwise Text.Ahead :=
  (Text.pairwise_distinctInOrder names).filter _

theorem extensions_congr {typed : Text} {names others : List Text}
    (h : ∀ name, name ∈ names ↔ name ∈ others) :
    extensions typed names = extensions typed others := by
  rw [extensions, extensions, Text.distinctInOrder_congr h]

/-! ## Putting one in -/

namespace Buffer

/-- What the editor does to put a completion in: the characters from where it starts
up to the cursor go, and its text comes in there. -/
def complete? (b : Buffer) (completion : Completion) : Option Buffer :=
  (b.deleteBefore? (-completion.start)).map fun b => b.insertText completion.text

variable {b : Buffer} {front rest typed : Text}

theorem length_head (b : Buffer) : b.head.length = b.cursor :=
  (List.length_take ..).trans (Nat.min_eq_left b.cursor_le_length)

theorem head_and_tail (htext : b.text = front ++ rest)
    (hcursor : b.cursor = front.length) : b.head = front ∧ b.tail = rest := by
  rw [head, tail, htext, hcursor]
  exact ⟨List.take_left, List.drop_left⟩

theorem insertText_cut (b : Buffer) (t : Text) :
    (b.insertText t).head = b.head ++ t ∧ (b.insertText t).tail = b.tail := by
  refine head_and_tail rfl ?_
  rw [List.length_append, length_head]
  rfl

theorem deleteBefore_cut (h : b.head = front ++ typed) :
    (b.deleteBefore typed.length).head = front
      ∧ (b.deleteBefore typed.length).tail = b.tail := by
  have hcursor : front.length + typed.length = b.cursor := by
    rw [← List.length_append, ← h, length_head]
  by_cases hzero : b.cursor = 0
  · have hfront : front = [] := List.eq_nil_of_length_eq_zero (by omega)
    have htyped : typed = [] := List.eq_nil_of_length_eq_zero (by omega)
    rw [deleteBefore, if_pos hzero, h, hfront, htyped]
    exact ⟨rfl, rfl⟩
  · have hplace : Text.place b.text.length ((b.cursor : Int) - typed.length)
        = front.length := by
      have hle := b.cursor_le_length
      have hnat : (b.cursor : Int) - typed.length = (front.length : Nat) := by omega
      rw [hnat, Text.place_natCast]
      omega
    have hkept : b.text.take front.length = front := by
      have hcut : b.head.take front.length = front := by rw [h, List.take_left]
      rwa [head, List.take_take, Nat.min_eq_left (by omega)] at hcut
    have hgone : (b.head.drop front.length).length = typed.length := by
      rw [h, List.drop_left]
    rw [deleteBefore, if_neg hzero]
    refine head_and_tail ?_ ?_
    · simp only [hplace, hkept]
    · simp only [hplace, hgone]
      omega

/-- A completion that begins where what was typed does takes its place and leaves
the rest. -/
theorem complete?_eq_some {completion : Completion} (h : b.head = front ++ typed)
    (hstart : completion.start = -typed.length) :
    ∃ b', b.complete? completion = some b' ∧ b'.head = front ++ completion.text
      ∧ b'.tail = b.tail := by
  obtain ⟨hhead, htail⟩ := deleteBefore_cut h
  obtain ⟨hhead', htail'⟩ :=
    insertText_cut (b.deleteBefore typed.length) completion.text
  have hdelete : b.deleteBefore? (-completion.start)
      = some (b.deleteBefore typed.length) := by
    rw [hstart, Int.neg_neg, deleteBefore?, if_neg (by omega), Int.toNat_natCast]
  refine ⟨(b.deleteBefore typed.length).insertText completion.text, ?_, ?_, ?_⟩
  · rw [complete?, hdelete]
    rfl
  · rw [hhead', hhead]
  · rw [htail', htail]

end Buffer

/-! ## Asking for them -/

/-- Nothing but blanks stands in front of the cursor. -/
structure Word.Idle (word : Word) (text : Text) (cursor : Int) : Prop where
  typed_eq_nil : word.typed = []
  blank : ∀ c ∈ Text.before text (cursor - word.cursor), Text.isBlank c = true

theorem Word.idle_iff {word : Word} {text : Text} {cursor : Int} :
    (word.typed.isEmpty
        && (Text.trim (Text.before text (cursor - word.cursor))).isEmpty) = true
      ↔ word.Idle text cursor := by
  rw [Bool.and_eq_true, List.isEmpty_iff, List.isEmpty_iff, Text.trim_eq_nil_iff,
    List.all_eq_true]
  exact ⟨fun h => ⟨h.1, h.2⟩, fun h => ⟨h.typed_eq_nil, h.blank⟩⟩

/-- What Tab is to offer for a word at a cursor, out of some candidates. -/
structure OffersExtensions (text : Text) (cursor : Int) (word : Word)
    (names : List Text) (completions : List Completion) : Prop where
  mem_iff : ∀ name, name ∈ completions.map Completion.text
    ↔ name ∈ names ∧ word.typed <+: name ∧ name ≠ word.typed
  ordered : (completions.map Completion.text).Pairwise Text.Ahead
  start_eq : ∀ c ∈ completions, c.start = -word.typed.length
  replaces : ∀ c ∈ completions, ∃ b b', Buffer.at? text cursor = .ok b
    ∧ b.complete? c = some b'
    ∧ b'.head = Text.before text (cursor - word.cursor) ++ c.text
    ∧ b'.tail = Text.after text cursor

section Requests

variable {parser : LineParser} {source : CandidateSource} {text : Text}
  {cursor : Int} {word : Word} {names : List Text}

theorem offersExtensions (hinside : 0 ≤ cursor ∧ cursor ≤ text.length)
    (hword : word.LiesAt text cursor) (names : List Text) :
    OffersExtensions text cursor word names
      ((extensions word.typed names).map fun name =>
        { text := name, start := -word.cursor }) := by
  obtain ⟨b, hb, htext, hcursor⟩ := Buffer.at?_eq_ok hinside
  obtain ⟨-, hcut⟩ := hword.before_append_typed hinside
  have htyped := hword.length_typed
  have hhead : b.head = Text.before text (cursor - word.cursor) ++ word.typed := by
    rw [hcut, ← hcursor, Text.before_natCast, ← htext]
    rfl
  have htail : b.tail = Text.after text cursor := by
    rw [← hcursor, Text.after_natCast, ← htext]
    rfl
  have hstart : ∀ c ∈ (extensions word.typed names).map fun name =>
      Completion.mk name (-word.cursor), c.start = -word.typed.length := by
    intro c hc
    obtain ⟨name, -, rfl⟩ := List.mem_map.mp hc
    rw [htyped]
  have hnames : ((extensions word.typed names).map fun name =>
      Completion.mk name (-word.cursor)).map Completion.text
        = extensions word.typed names := by
    rw [List.map_map]
    exact List.map_id _
  refine ⟨?_, ?_, hstart, ?_⟩
  · intro name
    rw [hnames, mem_extensions]
  · rw [hnames]
    exact pairwise_extensions word.typed names
  · intro c hc
    obtain ⟨b', hb', hhead', htail'⟩ := Buffer.complete?_eq_some hhead (hstart c hc)
    exact ⟨b, b', hb, hb', hhead', by rw [htail', htail]⟩

namespace LineParser

theorem completions_eq_offer (hinside : 0 ≤ cursor ∧ cursor ≤ text.length) :
    parser.completions source text cursor = parser.offer source text cursor := by
  obtain ⟨b, hb, htext, hcursor⟩ := Buffer.at?_eq_ok hinside
  rw [completions, Buffer.document?, hb]
  show parser.offer source b.text b.cursor = parser.offer source text cursor
  rw [htext, hcursor]

theorem offer_of_failure {fault : EditFault}
    (h : (locateWord text cursor parser.tokenizer).1 = .error fault) :
    (parser.offer source text cursor).outcome = .error fault := by
  rw [offer, complete]
  cases hlocated : locateWord text cursor parser.tokenizer with
  | mk outcome notices =>
      rw [hlocated] at h
      obtain rfl : outcome = .error fault := h
      rfl

theorem offer_of_idle
    (h : (locateWord text cursor parser.tokenizer).1 = .ok word)
    (hidle : word.Idle text cursor) :
    (parser.offer source text cursor).outcome = .ok []
      ∧ (parser.offer source text cursor).asked = [] := by
  rw [offer, complete]
  cases hlocated : locateWord text cursor parser.tokenizer with
  | mk outcome notices =>
      rw [hlocated] at h
      obtain rfl : outcome = .ok word := h
      simp only [Word.idle_iff.mpr hidle, if_true, and_self]

theorem offer_of_names
    (h : (locateWord text cursor parser.tokenizer).1 = .ok word)
    (hidle : ¬ word.Idle text cursor)
    (hnames : (source text (cursor - word.cursor) word.typed).1 = .ok names) :
    (parser.offer source text cursor).outcome
        = .ok ((extensions word.typed names).map fun name =>
            { text := name, start := -word.cursor })
      ∧ (parser.offer source text cursor).asked
        = [(text, cursor - word.cursor, word.typed)] := by
  rw [offer, complete]
  cases hlocated : locateWord text cursor parser.tokenizer with
  | mk outcome notices =>
      rw [hlocated] at h
      obtain rfl : outcome = .ok word := h
      rw [← Word.idle_iff] at hidle
      simp only [hidle, hnames]
      exact ⟨rfl, rfl⟩

end LineParser

end Requests

/-- Tab offers the distinct candidates that properly extend what was typed of the
word at the cursor, strictly in order, and nothing (and asks for no candidates)
where only blanks stand in front of the cursor. What was typed stands right in front
of the cursor, and a completion takes its place and leaves the rest of the text.
Candidates in another order, or given repeatedly, make no difference. There is a
word at the cursor unless the tokenizer fails before it gives a token that the cursor
touches, and something comes out when that is told of. -/
theorem completions_extend_typed (parser : LineParser) (text : Text) (cursor : Int)
    (hinside : 0 ≤ cursor ∧ cursor ≤ text.length)
    (hstart : ∀ t ∈ (parser.tokenizer text).tokens, 0 ≤ t.start) :
    ((∃ word, (locateWord text cursor parser.tokenizer).1 = .ok word)
      ∨ ∃ e escaping, (parser.tokenizer text).failure = some e
        ∧ e.escaping? = some escaping
        ∧ ∀ source, (parser.completions source text cursor).outcome
          = .error (.host escaping))
    ∧ ∀ word, (locateWord text cursor parser.tokenizer).1 = .ok word →
      Text.slice text (cursor - word.cursor) cursor = word.typed
      ∧ (word.Idle text cursor → ∀ source,
        (parser.completions source text cursor).outcome = .ok []
          ∧ (parser.completions source text cursor).asked = [])
      ∧ (¬ word.Idle text cursor → ∀ (source : CandidateSource) names,
        (source text (cursor - word.cursor) word.typed).1 = .ok names →
          (∃ completions,
            (parser.completions source text cursor).outcome = .ok completions
              ∧ OffersExtensions text cursor word names completions)
          ∧ (parser.completions source text cursor).asked
            = [(text, cursor - word.cursor, word.typed)])
      ∧ ∀ (source other : CandidateSource) names others,
        (source text (cursor - word.cursor) word.typed).1 = .ok names →
        (other text (cursor - word.cursor) word.typed).1 = .ok others →
        (∀ name, name ∈ names ↔ name ∈ others) →
          (parser.completions source text cursor).outcome
            = (parser.completions other text cursor).outcome := by
  have hoffer : ∀ source, parser.completions source text cursor
      = parser.offer source text cursor := fun _ =>
    LineParser.completions_eq_offer hinside
  simp only [hoffer]
  refine ⟨?_, ?_⟩
  · rcases locateWord_cases hinside parser.tokenizer with
      hword | ⟨e, escaping, hend, hescaping, hlocated⟩
    · exact .inl hword
    · exact .inr ⟨e, escaping, hend, hescaping,
        fun _ => LineParser.offer_of_failure hlocated⟩
  · intro word h
    have hword := Word.liesAt_of_locateWord hinside hstart h
    refine ⟨hword.slice_eq_typed hinside, ?_, ?_, ?_⟩
    · intro hidle source
      exact LineParser.offer_of_idle h hidle
    · intro hidle source names hnames
      obtain ⟨houtcome, hasked⟩ := LineParser.offer_of_names h hidle hnames
      exact ⟨⟨_, houtcome, offersExtensions hinside hword names⟩, hasked⟩
    · intro source other names others hnames hothers hsame
      by_cases hidle : word.Idle text cursor
      · rw [(LineParser.offer_of_idle h hidle).1, (LineParser.offer_of_idle h hidle).1]
      · rw [(LineParser.offer_of_names h hidle hnames).1,
          (LineParser.offer_of_names h hidle hothers).1, extensions_congr hsame]

/-- Candidates out of order and given twice, for a word that goes past the end of
the text, and the same ones otherwise; the exit behind that word is not met. On a
line of blanks the same candidates are not asked for. -/
theorem completions_extend_typed_past_end :
    let text := Text.ofString "foo.ba"
    let blanks := Text.ofString "  "
    let exit : Exception := { name := Text.ofString "SystemExit", family := .exit }
    let parser : LineParser :=
      { tokenizer := fun _ =>
          { tokens := [⟨9, 3, .keyword⟩, ⟨4, 9, .identifier⟩, ⟨0, 6, .keyword⟩]
            failure := some exit }
        isIncomplete := fun _ => .ok false }
    let wordless : LineParser :=
      { tokenizer := fun _ => { tokens := [] }, isIncomplete := fun _ => .ok false }
    let names := ["qux", "baz", "bar", "ba", "bar"].map Text.ofString
    let others := ["bar", "baz", "ba", "qux"].map Text.ofString
    let gives : List Text → CandidateSource := fun names _ _ _ => (.ok names, [])
    let word : Word := { text := Text.ofString "ba", cursor := 2 }
    let offered : List Completion :=
      [⟨Text.ofString "bar", -2⟩, ⟨Text.ofString "baz", -2⟩]
    ((0 : Int) ≤ 6 ∧ (6 : Int) ≤ text.length)
      ∧ (∀ t ∈ (parser.tokenizer text).tokens, 0 ≤ t.start)
      ∧ ((0 : Int) ≤ 2 ∧ (2 : Int) ≤ blanks.length)
      ∧ (∀ t ∈ (wordless.tokenizer blanks).tokens, 0 ≤ t.start)
      ∧ Text.slice text 4 6 = Text.ofString "ba"
      ∧ OffersExtensions text 6 word names offered
      ∧ (parser.completions (gives names) text 6).outcome = .ok offered
      ∧ (parser.completions (gives others) text 6).outcome = .ok offered
      ∧ (wordless.completions (gives names) blanks 2).asked = [] := by
  intro text blanks exit parser wordless names others gives word offered
  have hinside : (0 : Int) ≤ 6 ∧ (6 : Int) ≤ text.length := by decide
  have hstart : ∀ t ∈ (parser.tokenizer text).tokens, 0 ≤ t.start := by decide
  have hblanks : (0 : Int) ≤ 2 ∧ (2 : Int) ≤ blanks.length := by decide
  have hnone : ∀ t ∈ (wordless.tokenizer blanks).tokens, 0 ≤ t.start := by decide
  have hbusy : ¬ word.Idle text 6 := fun h => nomatch h.typed_eq_nil
  have hidle : Word.empty.Idle blanks 2 := ⟨rfl, List.all_eq_true.mp rfl⟩
  obtain ⟨-, hoffer⟩ := completions_extend_typed parser text 6 hinside hstart
  obtain ⟨-, hnothing⟩ := completions_extend_typed wordless blanks 2 hblanks hnone
  obtain ⟨htyped, -, hnames, hsame⟩ := hoffer word rfl
  obtain ⟨⟨completions, houtcome, hextend⟩, -⟩ := hnames hbusy (gives names) names rfl
  have hmembers : others ⊆ names ∧ names ⊆ others := by decide
  have hoffered : (parser.completions (gives names) text 6).outcome = .ok offered := rfl
  rw [hoffered] at houtcome
  obtain rfl := Except.ok.inj houtcome
  have hothers := hsame (gives others) (gives names) others names rfl rfl
    fun _ => ⟨fun h => hmembers.1 h, fun h => hmembers.2 h⟩
  exact ⟨hinside, hstart, hblanks, hnone, htyped, hextend, hoffered,
    hothers.trans hoffered, ((hnothing .empty rfl).2.1 hidle (gives names)).2⟩

end DiagnosticConsole
