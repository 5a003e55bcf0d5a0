import DiagnosticConsole.Language.Basic
import DiagnosticConsole.Proofs.Terminal.Escape
import DiagnosticConsole.Proofs.Text.Newline

/-!
# What colouring leaves of a text

Colouring puts sequences around the pieces of a text. The pieces are the lines of
its lexemes, and the lexemes put together are the text, so once colours are taken
out again the text is there as it was given to the lexer
(`stripColor_paint_eq_prepared`).

That is not the text itself. The lexer is given the text without a byte order
mark at its start and with one spelling of the newline, and this it does not get
back: a text keeps its characters just if it has no carriage return and does not
start with the mark (`prepared_eq_self_iff`).
-/

namespace DiagnosticConsole

/-- The lexemes of every text, put together, are the text. -/
def Lexer.Covers (lexer : Lexer) : Prop :=
  ∀ t, (lexer t).flatMap Lexeme.text = t

theorem Mini.flatMap_text_lexemesFrom (offset skip : Nat) (t : Text) :
    (Mini.lexemesFrom offset skip t).flatMap Lexeme.text = t.drop skip := by
  induction t generalizing offset skip with
  | nil => rw [Mini.lexemesFrom, List.drop_nil]; rfl
  | cons c rest ih =>
      cases skip with
      | succ skip => rw [Mini.lexemesFrom, ih, List.drop_succ_cons]
      | zero =>
          rw [Mini.lexemesFrom]
          rw [List.flatMap_cons, ih, List.cons_append, List.take_append_drop]
          rfl

theorem Mini.lexer_covers : Lexer.Covers Mini.lexer :=
  fun t => Mini.flatMap_text_lexemesFrom 0 0 t

namespace Coloring

open DiagnosticConsole.Text (normaliseNewlines withoutMark)

/-! ## The text that a lexer is given -/

/-- The texts that a lexer is given as they are. -/
def Untouched (t : Text) : Prop := '\r' ∉ t ∧ t.head? ≠ some '\uFEFF'

instance (t : Text) : Decidable (Untouched t) :=
  inferInstanceAs (Decidable (_ ∧ _))

theorem prepared_eq_self_iff {t : Text} : prepared t = t ↔ Untouched t := by
  cases t with
  | nil => exact ⟨fun _ => by decide, fun _ => rfl⟩
  | cons c rest =>
      rw [prepared, withoutMark, Untouched, List.head?_cons, ne_eq,
        Option.some.injEq]
      by_cases hc : c = '\uFEFF'
      · rw [if_pos hc]
        refine ⟨fun h => ?_, fun h => absurd hc h.2⟩
        -- What is left is too short to be the whole text.
        have hle := Text.length_normaliseNewlines_le rest
        rw [h, List.length_cons] at hle
        omega
      · rw [if_neg hc, Text.normaliseNewlines_eq_self_iff]
        exact ⟨fun h => ⟨h, hc⟩, fun h => h.1⟩

theorem prepared_eq_replaceAll (t : Text) :
    prepared t
      = Text.replaceAll ['\r'] ['\n'] (Text.replaceAll ['\r', '\n'] ['\n']
          (if t.head? = some '\uFEFF' then t.tail else t)) := by
  have hmark : withoutMark t = if t.head? = some '\uFEFF' then t.tail else t := by
    cases t with
    | nil => rfl
    | cons c rest =>
        rw [withoutMark, List.head?_cons, List.tail_cons]
        by_cases hc : c = '\uFEFF'
        · rw [if_pos hc, if_pos (congrArg some hc)]
        · rw [if_neg hc, if_neg fun h => hc (Option.some.inj h)]
  rw [prepared, Text.normaliseNewlines_eq_replaceAll, hmark]

theorem esc_not_mem_prepared {t : Text} (h : Escape.esc ∉ t) :
    Escape.esc ∉ prepared t := by
  intro hmem
  have hmark := Text.mem_of_mem_normaliseNewlines (by decide) hmem
  cases t with
  | nil => exact h hmark
  | cons c rest =>
      rw [withoutMark] at hmark
      split at hmark
      · exact h (List.mem_cons_of_mem _ hmark)
      · exact h hmark

/-! ## Painting pieces of text -/

open DiagnosticConsole.Escape (stripColor color_takesColors esc)

theorem styles_isSequence {entry : String × List String} (h : entry ∈ styles)
    {parameters : String} (hmem : parameters ∈ entry.2) :
    Escape.color.IsSequence (Escape.sgr parameters) := by
  have hdigits : ∀ entry ∈ styles, ∀ parameters ∈ entry.2,
      (Text.ofString parameters).all Char.isDigit = true := by decide
  exact color_takesColors.isSequence_sgr (hdigits entry h parameters hmem)

theorem styleOf?_isSequence {type : TokenType} {style : List String}
    (h : styleOf? type = some style) {parameters : String}
    (hmem : parameters ∈ style) :
    Escape.color.IsSequence (Escape.sgr parameters) := by
  obtain ⟨n, -, hlisted⟩ := List.exists_of_findSome?_eq_some h
  obtain ⟨entry, hfind, rfl⟩ := Option.map_eq_some_iff.mp hlisted
  exact styles_isSequence (List.mem_of_find?_eq_some hfind) hmem

theorem plainStyle_isSequence : Escape.color.IsSequence plainStyle :=
  ⟨Text.ofString "39;49;00", 'm', rfl, List.all_eq_true.mp (by decide), rfl⟩

theorem stripColor_style_append {style : List String}
    (h : ∀ parameters ∈ style,
      Escape.color.IsSequence (Escape.sgr parameters)) (b : Text) :
    stripColor (style.flatMap Escape.sgr ++ b) = stripColor b := by
  induction style with
  | nil => rfl
  | cons parameters rest ih =>
      rw [List.flatMap_cons, List.append_assoc, stripColor,
        Escape.remove_sequence_append (h parameters List.mem_cons_self)]
      exact ih fun p hp => h p (List.mem_cons_of_mem _ hp)

/-- A painted line is left as the line. -/
theorem stripColor_paintLine_append {style : List String} {line : Text}
    (hstyle : ∀ parameters ∈ style,
      Escape.color.IsSequence (Escape.sgr parameters))
    (hline : '\n' ∉ line.dropLast) (hesc : esc ∉ line) (b : Text) :
    stripColor (paintLine style line ++ b) = line ++ stripColor b := by
  have hjoin := Text.dropWhileEnd_newline_append hline
  have hbody : esc ∉ Text.dropWhileEnd (· = '\n') line :=
    fun hmem => hesc ((Text.dropWhileEnd_isPrefix _ line).subset hmem)
  have hend : esc ∉ (if line.getLast? = some '\n' then ['\n'] else []) := by
    split
    · decide
    · exact List.not_mem_nil
  rw [paintLine, List.append_assoc, List.append_assoc, List.append_assoc,
    stripColor_style_append hstyle, stripColor,
    color_takesColors.remove_plain_append hbody,
    Escape.remove_sequence_append plainStyle_isSequence,
    color_takesColors.remove_plain_append hend, ← List.append_assoc, hjoin]
  rfl

theorem stripColor_paintLines_append {style : List String}
    (hstyle : ∀ parameters ∈ style,
      Escape.color.IsSequence (Escape.sgr parameters))
    {lines : List Text.Line} (hlines : ∀ line ∈ lines, '\n' ∉ line.whole.dropLast)
    (hesc : esc ∉ lines.flatMap Text.Line.whole) (b : Text) :
    stripColor ((lines.flatMap fun line => paintLine style line.whole) ++ b)
      = lines.flatMap Text.Line.whole ++ stripColor b := by
  induction lines with
  | nil => rfl
  | cons line rest ih =>
      rw [List.flatMap_cons, List.mem_append, not_or] at hesc
      rw [List.flatMap_cons, List.flatMap_cons, List.append_assoc,
        List.append_assoc,
        stripColor_paintLine_append hstyle (hlines line List.mem_cons_self) hesc.1,
        ih (fun l hl => hlines l (List.mem_cons_of_mem _ hl)) hesc.2]

/-- A painted lexeme is left as its text. -/
theorem stripColor_paintLexeme_append {lexeme : Lexeme} (hesc : esc ∉ lexeme.text)
    (b : Text) :
    stripColor (paintLexeme lexeme ++ b) = lexeme.text ++ stripColor b := by
  have hwhole := Text.flatMap_whole_lines lexeme.text
  rw [paintLexeme]
  split
  · next style hstyle =>
      have hlines := stripColor_paintLines_append
        (fun p hp => styleOf?_isSequence hstyle hp)
        (fun line hline => Text.newline_not_mem_dropLast hline)
        (by rw [hwhole]; exact hesc) b
      rw [hlines, hwhole]
  · exact color_takesColors.remove_plain_append hesc b

theorem stripColor_paintLexemes {lexemes : List Lexeme}
    (hesc : esc ∉ lexemes.flatMap Lexeme.text) :
    stripColor (lexemes.flatMap paintLexeme) = lexemes.flatMap Lexeme.text := by
  induction lexemes with
  | nil => rfl
  | cons lexeme rest ih =>
      rw [List.flatMap_cons, List.mem_append, not_or] at hesc
      rw [List.flatMap_cons, stripColor_paintLexeme_append hesc.1, ih hesc.2,
        List.flatMap_cons]

/-- What is left of a coloured text is the text that the lexer was given. -/
theorem stripColor_paint_eq_prepared {lexer : Lexer} (hcovers : lexer.Covers)
    {t : Text} (hesc : esc ∉ t) : stripColor (paint lexer t) = prepared t := by
  rw [paint]
  split
  · next hempty =>
      rw [List.isEmpty_iff.mp hempty]
      rfl
  · have hlexemes := esc_not_mem_prepared hesc
    rw [← hcovers (prepared t)] at hlexemes
    rw [stripColor_paintLexemes hlexemes, hcovers]

/-- In a language whose lexemes cover a text, highlighting does nothing to a text
without escapes but add colours and give it one spelling of the newline. Without its
colours it is the text without a byte order mark at its start, with first the pairs
of a carriage return and a line feed and then the other carriage returns replaced by
line feeds; and it is the text itself just if there is none of these. -/
theorem highlighter_adds_colors {languages : Languages} {name : Text} {lexer : Lexer}
    (hlanguage : languages name = some lexer) (hcovers : lexer.Covers) :
    ∃ highlighter, languages.highlighter name true = .ok highlighter
      ∧ ∀ t, esc ∉ t →
        stripColor (highlighter.apply t)
            = Text.replaceAll ['\r'] ['\n'] (Text.replaceAll ['\r', '\n'] ['\n']
                (if t.head? = some '\uFEFF' then t.tail else t))
          ∧ (stripColor (highlighter.apply t) = t
            ↔ '\r' ∉ t ∧ t.head? ≠ some '\uFEFF') := by
  have hhighlighter : languages.highlighter name true
      = .ok (Coloring.highlighter lexer) := by
    rw [Languages.highlighter, Languages.lexer, hlanguage]
    rfl
  refine ⟨_, hhighlighter, fun t hesc => ?_⟩
  have hstrip : stripColor ((Coloring.highlighter lexer).apply t) = prepared t := by
    rw [highlighter, Highlighter.apply]
    exact stripColor_paint_eq_prepared hcovers hesc
  rw [hstrip]
  exact ⟨prepared_eq_replaceAll t, prepared_eq_self_iff⟩

/-- Lexemes of single characters with empty ones between them, on a text with a mark,
all spellings of the newline and other separators of lines. -/
theorem highlighter_adds_colors_separators :
    let lexer : Lexer := fun t => t.flatMap fun c =>
      [⟨0, .named "Name.Class", []⟩, ⟨0, .named "Error", [c]⟩]
    let languages : Languages := fun _ => some lexer
    let t := Text.ofString "\uFEFFa\r\n\r\x0c\u2028\uFEFF\n"
    lexer.Covers ∧ esc ∉ t
      ∧ ∃ highlighter, languages.highlighter ['x'] true = .ok highlighter
        ∧ stripColor (highlighter.apply t)
          = Text.ofString "a\n\n\x0c\u2028\uFEFF\n" := by
  intro lexer languages t
  have hcovers : lexer.Covers := by
    intro t
    induction t with
    | nil => rfl
    | cons c rest ih => exact congrArg (c :: ·) ih
  have hesc : esc ∉ t := by decide
  have hlanguage : languages ['x'] = some lexer := rfl
  obtain ⟨highlighter, hhighlighter, hstrip⟩ :=
    highlighter_adds_colors hlanguage hcovers
  refine ⟨hcovers, hesc, highlighter, hhighlighter, ?_⟩
  rw [(hstrip t hesc).1]
  rfl

end Coloring

end DiagnosticConsole
