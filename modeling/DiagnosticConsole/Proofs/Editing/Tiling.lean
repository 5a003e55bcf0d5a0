import DiagnosticConsole.Proofs.Editing.Word

/-!
# The word at a cursor among tiles

A cursor touches no more than two tiles, the one that the character in front of it
lies in and the one that the character behind it lies in, and comes to the left one
first. So where the tokens of a text tile it, looking for a word is looking at these
two (`locateWord_of_left`, `locateWord_of_right`), and the tokenizer of a lexer
gives tiles for every text that the lexer cuts into lexemes.
-/

namespace DiagnosticConsole

section Tiles

variable {text : Text} {cursor start stop : Int} {tokenizer : Tokenizer}
  {token : Token} {tokens : List Token}

theorem Token.Tile.stop_le_start {before after : List Token}
    (h : Token.Tile start (before ++ token :: after) stop) :
    ∀ t ∈ before, t.stop ≤ token.start := by
  intro t ht
  exact (List.pairwise_append.mp h.pairwise).2.2 t ht token List.mem_cons_self

/-- A tile that a cursor touches is the one in front of the cursor or the one
behind it. -/
theorem Token.Touched.covers (h : token.Touched cursor)
    (hsolid : token.start < token.stop) :
    token.Covers (cursor - 1) ∨ token.Covers cursor := by
  have hstart := h.start_le
  have hstop := h.le_stop
  by_cases hfirst : token.start = cursor
  · exact .inr ⟨hstart, by omega⟩
  · exact .inl ⟨by omega, by omega⟩

theorem locateWord_of_left (hinside : 0 ≤ cursor ∧ cursor ≤ text.length)
    (h : Token.Tile start (tokenizer text).tokens stop)
    (htoken : token ∈ (tokenizer text).tokens) (hword : token.IsWord)
    (hcovers : token.Covers (cursor - 1)) :
    locateWord text cursor tokenizer
      = (.ok (Word.ofToken text cursor token), []) := by
  have hle := hcovers.start_le
  have hlt := hcovers.lt_stop
  obtain ⟨before, after, htokens⟩ := List.append_of_mem htoken
  refine locateWord_of_first hinside htokens ⟨hword, by omega, by omega⟩ ?_
  intro t ht htouched
  rw [htokens] at h
  have hend := h.stop_le_start t ht
  have hstop := htouched.le_stop
  omega

theorem locateWord_of_right (hinside : 0 ≤ cursor ∧ cursor ≤ text.length)
    (h : Token.Tile start (tokenizer text).tokens stop)
    (hleft : ∀ t ∈ (tokenizer text).tokens, t.Covers (cursor - 1) → ¬ t.IsWord)
    (htoken : token ∈ (tokenizer text).tokens) (hword : token.IsWord)
    (hcovers : token.Covers cursor) :
    locateWord text cursor tokenizer
      = (.ok (Word.ofToken text cursor token), []) := by
  have hle := hcovers.start_le
  have hlt := hcovers.lt_stop
  obtain ⟨before, after, htokens⟩ := List.append_of_mem htoken
  refine locateWord_of_first hinside htokens ⟨hword, hle, by omega⟩ ?_
  intro t ht htouched
  have hmem : t ∈ (tokenizer text).tokens := by
    rw [htokens]
    exact List.mem_append_left _ ht
  have hsolid := (h.bounds t hmem).2
  rw [htokens] at h
  have hend := h.stop_le_start t ht
  have hstop := htouched.le_stop
  -- such a tile would end at the cursor, so it would cover what is in front of it
  exact hleft t hmem ⟨by omega, by omega⟩ htouched.isWord

theorem untouched_of_tiles (h : Token.Tile start tokens stop)
    (hleft : ∀ t ∈ tokens, t.Covers (cursor - 1) → ¬ t.IsWord)
    (hright : ∀ t ∈ tokens, t.Covers cursor → ¬ t.IsWord) :
    ∀ t ∈ tokens, ¬ t.Touched cursor := by
  intro t ht htouched
  rcases htouched.covers (h.bounds t ht).2 with hcovers | hcovers
  · exact hleft t ht hcovers htouched.isWord
  · exact hright t ht hcovers htouched.isWord

end Tiles

theorem tokenizer_ofLexer_tokens (lexer : Lexer) (text : Text) :
    Tokenizer.ofLexer lexer text
      = { tokens := (Lexeme.solid (lexer text)).map Token.ofLexeme } := by
  rw [Tokenizer.ofLexer, tokensOf_eq_ok (.inl rfl)]
  rfl

/-- The tokens of a text that a lexer cuts into lexemes tile the text: each marks
one of the lexemes that are not empty, in order, and every offset lies in just one.
With problems wanted there are the same tokens just if no lexeme is foreign to the
language, and else the fault names the first that is, where it stands. The word at a
cursor is the token in front of the cursor if that is one, else the token behind it
if that is one, else none. -/
theorem tokens_tile_text (lexer : Lexer) (text : Text)
    (h : Lexeme.Cut (lexer text) text) :
    ∃ tokens, tokensOf true (lexer text) = .ok tokens
      ∧ Token.Tile 0 tokens text.length
      ∧ (∀ offset : Int, 0 ≤ offset → offset < text.length →
        ∃! token, token ∈ tokens ∧ token.Covers offset)
      ∧ List.Forall₂ (Token.Marks text)
        ((lexer text).filter fun lexeme => !lexeme.text.isEmpty) tokens
      ∧ (tokensOf false (lexer text) = .ok tokens
        ↔ ∀ lexeme ∈ lexer text, ¬ lexeme.IsForeign)
      ∧ (∀ before lexeme after, lexer text = before ++ lexeme :: after →
        lexeme.IsForeign → (∀ b ∈ before, ¬ b.IsForeign) →
          tokensOf false (lexer text) = .error ⟨lexeme.start, lexeme.text⟩
          ∧ lexeme.start = (before.flatMap Lexeme.text).length)
      ∧ (∀ cursor : Int, ¬ (0 ≤ cursor ∧ cursor ≤ text.length) →
        locateWord text cursor (Tokenizer.ofLexer lexer)
          = (.error (.cursor ⟨cursor, text.length⟩), []))
      ∧ ∀ cursor : Int, 0 ≤ cursor ∧ cursor ≤ text.length →
        (∀ token ∈ tokens, token.Covers (cursor - 1) → token.IsWord →
          locateWord text cursor (Tokenizer.ofLexer lexer)
            = (.ok (Word.ofToken text cursor token), []))
        ∧ ((∀ token ∈ tokens, token.Covers (cursor - 1) → ¬ token.IsWord) →
          (∀ token ∈ tokens, token.Covers cursor → token.IsWord →
            locateWord text cursor (Tokenizer.ofLexer lexer)
              = (.ok (Word.ofToken text cursor token), []))
          ∧ ((∀ token ∈ tokens, token.Covers cursor → ¬ token.IsWord) →
            locateWord text cursor (Tokenizer.ofLexer lexer)
              = (.ok .empty, []))) := by
  have htiles := Token.tile_ofLexeme h.contiguous
  rw [h.covers, Int.zero_add] at htiles
  have htokens : (Tokenizer.ofLexer lexer text).tokens
      = (Lexeme.solid (lexer text)).map Token.ofLexeme := by
    rw [tokenizer_ofLexer_tokens]
  refine ⟨(Lexeme.solid (lexer text)).map Token.ofLexeme, tokensOf_eq_ok (.inl rfl),
    htiles, fun offset hstart hstop => htiles.existsUnique hstart hstop,
    Token.forall₂_marks h, ⟨fun hsame => ?_, fun hnone => tokensOf_eq_ok (.inr hnone)⟩,
    fun before lexeme after hlexemes hforeign hbefore => ?_,
    fun cursor houtside => locateWord_of_outside houtside,
    fun cursor hinside => ?_⟩
  · rcases Lexeme.exists_first_foreign (lexer text) with
      ⟨before, lexeme, after, hlexemes, hforeign, hbefore⟩ | hnone
    · rw [hlexemes, tokensOf_eq_error hforeign hbefore] at hsame
      cases hsame
    · exact hnone
  · have hcontiguous := h.contiguous
    rw [hlexemes] at hcontiguous ⊢
    have hstart := Lexeme.start_of_contiguousFrom hcontiguous
    exact ⟨tokensOf_eq_error hforeign hbefore after, by omega⟩
  · rw [← htokens] at htiles ⊢
    refine ⟨fun token htoken hcovers hword =>
      locateWord_of_left hinside htiles htoken hword hcovers, fun hleft => ⟨?_, ?_⟩⟩
    · intro token htoken hcovers hword
      exact locateWord_of_right hinside htiles hleft htoken hword hcovers
    · intro hright
      rw [locateWord_of_untouched hinside (untouched_of_tiles htiles hleft hright),
        tokenizer_ofLexer_tokens]

/-- Of seven lexemes three are empty, one of them foreign to the language. The
foreign one behind it is what the fault names, and behind the blank it leaves the
cursor at no word. -/
theorem tokens_tile_text_foreign :
    let text := Text.ofString "f$ if"
    let lexer : Lexer := fun _ =>
      [⟨0, .named "Name.Function", ['f']⟩, ⟨1, .error, []⟩, ⟨1, .error, ['$']⟩,
       ⟨2, .named "Text.Whitespace", [' ']⟩, ⟨3, .name, []⟩,
       ⟨3, .keyword, ['i', 'f']⟩, ⟨5, .name, []⟩]
    let tokenizer := Tokenizer.ofLexer lexer
    Lexeme.Cut (lexer text) text
      ∧ tokensOf true (lexer text)
        = .ok [⟨0, 1, .identifier⟩, ⟨1, 2, .other⟩, ⟨2, 3, .other⟩, ⟨3, 5, .keyword⟩]
      ∧ tokensOf false (lexer text) = .error ⟨1, ['$']⟩
      ∧ locateWord text 1 tokenizer = (.ok ⟨['f'], 1⟩, [])
      ∧ locateWord text 2 tokenizer = (.ok ⟨[], 0⟩, [])
      ∧ locateWord text 3 tokenizer = (.ok ⟨['i', 'f'], 0⟩, []) := by
  intro text lexer tokenizer
  have hcut : Lexeme.Cut (lexer text) text :=
    ⟨⟨rfl, rfl, rfl, rfl, rfl, rfl, rfl, trivial⟩, rfl⟩
  obtain ⟨tokens, htokens, -, -, -, -, hfault, -, hword⟩ :=
    tokens_tile_text lexer text hcut
  have hlist : tokens
      = [⟨0, 1, .identifier⟩, ⟨1, 2, .other⟩, ⟨2, 3, .other⟩, ⟨3, 5, .keyword⟩] :=
    (Except.ok.inj htokens).symm
  subst hlist
  have hforeign := hfault [⟨0, .named "Name.Function", ['f']⟩, ⟨1, .error, []⟩]
    ⟨1, .error, ['$']⟩ _ rfl ⟨by decide, by decide⟩ (by decide)
  -- around the second offset there are only tokens that are no words
  have hother : ∀ token ∈ [Token.mk 0 1 .identifier, ⟨1, 2, .other⟩, ⟨2, 3, .other⟩,
      ⟨3, 5, .keyword⟩], ∀ offset : Int, 1 ≤ offset → offset < 3 →
        token.Covers offset → ¬ token.IsWord := by
    intro token htoken offset hstart hstop hcovers
    have hle := hcovers.start_le
    have hlt := hcovers.lt_stop
    rw [← Token.isCompletable_iff]
    simp only [List.mem_cons, List.not_mem_nil, or_false] at htoken
    rcases htoken with rfl | rfl | rfl | rfl
    · have : offset < 1 := hlt
      omega
    · decide
    · decide
    · have : 3 ≤ offset := hle
      omega
  refine ⟨hcut, htokens, hforeign.1, ?_, ?_, ?_⟩
  · exact (hword 1 (by decide)).1 ⟨0, 1, .identifier⟩ (by decide)
      ⟨by decide, by decide⟩ (.inl rfl)
  · refine ((hword 2 (by decide)).2 fun token htoken hcovers => ?_).2
      fun token htoken hcovers => ?_
    · exact hother token htoken 1 (by decide) (by decide) hcovers
    · exact hother token htoken 2 (by decide) (by decide) hcovers
  · refine ((hword 3 (by decide)).2 fun token htoken hcovers => ?_).1
      ⟨3, 5, .keyword⟩ (by decide) ⟨by decide, by decide⟩ (.inr rfl)
    exact hother token htoken 2 (by decide) (by decide) hcovers

end DiagnosticConsole
