import DiagnosticConsole.Proofs.Command.Check
import DiagnosticConsole.Proofs.Diagnostic.Palette
import DiagnosticConsole.Proofs.Language.Coloring
import DiagnosticConsole.Proofs.Source.Places

/-!
# What a diagnostic says in colour

The settings turn colour on in two places at once: the palette paints what the
renderer adds, and the highlighter of the language paints the excerpt. The
palette changes nothing but colours, whatever it paints. So with colour and
without it the diagnostics are the same but for colours just if their excerpts
are (`render_sameButColors_iff`).

The excerpts are the same if the source line is one that its lexer is given as it
is. A carriage return inside of a line and a byte order mark at its start are
not: in colour the one becomes a line feed and breaks the excerpt in two, and the
other is gone, so that the carets stand one character too far to the right.
-/

namespace DiagnosticConsole

theorem SourceFile.esc_not_mem_lineContent {file : SourceFile}
    (h : Escape.esc ∉ file.content) (line : Int) :
    Escape.esc ∉ file.lineContent line := by
  intro hmem
  rw [lineContent] at hmem
  split at hmem
  · cases hmem
  · rw [List.getD_eq_getElem?_getD] at hmem
    cases hline : file.lines[(line - 1).toNat]? with
    | none =>
        rw [hline] at hmem
        cases hmem
    | some t =>
        rw [hline] at hmem
        refine h ?_
        rw [← flatten_lines]
        exact List.mem_flatten.mpr ⟨t, List.mem_of_getElem? hline, hmem⟩

/-- The first line of a position as an excerpt shows it. -/
def Position.shownLine (p : Position) : Text := Text.withoutTerminator p.lineContent

theorem Position.esc_not_mem_shownLine {p : Position}
    (h : Escape.esc ∉ p.site.source.content) : Escape.esc ∉ p.shownLine :=
  fun hmem => SourceFile.esc_not_mem_lineContent h _
    ((Text.withoutTerminator_isPrefix _).subset hmem)

namespace Renderer

theorem esc_not_mem_lineLabel (p : Position) : Escape.esc ∉ lineLabel p := by
  rw [lineLabel, List.mem_append, not_or]
  exact ⟨Text.not_mem_ofNat (by decide) _, by decide⟩

/-- Excerpts are the same but for colours just if the painted source lines are,
for no colour is in their labels. -/
theorem sourceLine_sameButColors_iff (r r' : Renderer) (p : Position) :
    (r.sourceLine p).1.SameButColors (r'.sourceLine p).1
      ↔ (r.highlighter.apply p.shownLine).SameButColors
        (r'.highlighter.apply p.shownLine) := by
  have hlabel : ∀ t, Escape.stripColor (lineLabel p ++ t)
      = lineLabel p ++ Escape.stripColor t :=
    Escape.color_takesColors.remove_plain_append (esc_not_mem_lineLabel p)
  constructor
  · intro h
    have hstrip : Escape.stripColor (lineLabel p ++ r.highlighter.apply p.shownLine)
        = Escape.stripColor (lineLabel p ++ r'.highlighter.apply p.shownLine) := h
    rw [hlabel, hlabel] at hstrip
    exact List.append_cancel_left hstrip
  · intro h
    exact h.append_left (esc_not_mem_lineLabel p)

/-- Diagnostics on pages of one width are the same but for colours just if the
painted source lines are. -/
theorem render_sameButColors_iff {r r' : Renderer}
    (hwidth : r.pageWidth = r'.pageWidth) (message : Message)
    (position : Option Position) (kind : Option Text) (pageWidth : Option Int) :
    (r.render message position kind pageWidth).SameButColors
        (r'.render message position kind pageWidth)
      ↔ ∀ p, position = some p →
        (r.highlighter.apply p.shownLine).SameButColors
          (r'.highlighter.apply p.shownLine) := by
  obtain ⟨width, highlighter, palette, room⟩ := r
  obtain ⟨width', highlighter', palette', room'⟩ := r'
  obtain rfl : width = width' := hwidth
  have hheader := forall₂_sameButColors_paint palette palette' .blue
    (headerLines (kind.getD message.kind) (pageWidth.getD width) position)
  cases position with
  | none =>
      constructor
      · intro _ p hp
        cases hp
      · exact fun _ => ⟨hheader, forall₂_sameButColors _⟩
  | some p =>
      have hexcerpt := sourceLine_sameButColors_iff ⟨width, highlighter, palette, room⟩
        ⟨width, highlighter', palette', room'⟩ p
      constructor
      · rintro ⟨-, hbody⟩ q hq
        obtain rfl := Option.some.inj hq
        exact hexcerpt.mp (List.forall₂_cons.mp hbody).1
      · intro hsame
        have hmarker := columnMarker_sameButColors ⟨width, highlighter, palette, room⟩
          palette palette' p (lineLabel p).length
        exact ⟨hheader, .cons (hexcerpt.mpr (hsame p rfl))
          (.cons hmarker (forall₂_sameButColors _))⟩

/-- What keeps a diagnostic from being drawn is the same on all pages of one width,
where there is the same room. -/
theorem render?_of_pageWidth {r r' : Renderer}
    (hwidth : r.pageWidth = r'.pageWidth) (hroom : r.room = r'.room) (message : Message)
    (position : Option Position) (kind : Option Text) (pageWidth : Option Int) :
    (r.render? message position kind pageWidth
          = .ok (r.render message position kind pageWidth)
        ∧ r'.render? message position kind pageWidth
          = .ok (r'.render message position kind pageWidth))
      ∨ ∃ fault, r.render? message position kind pageWidth = .error fault
        ∧ r'.render? message position kind pageWidth = .error fault := by
  have hruns : r'.runs message position kind pageWidth
      = r.runs message position kind pageWidth := by
    simp only [runs, hwidth]
  rw [render?, render?, Extent.drawn, Extent.drawn, hruns, hroom]
  cases Extent.checkAll r'.room (r.runs message position kind pageWidth) with
  | ok _ => exact .inl ⟨rfl, rfl⟩
  | error fault => exact .inr ⟨fault, rfl, rfl⟩

end Renderer

/-- A source line with the colours of a lexer and without is the same but for
colours just if the lexer is given it as it is. -/
theorem Coloring.shownLine_sameButColors_iff {lexer : Lexer}
    (hcovers : lexer.Covers) {p : Position}
    (hesc : Escape.esc ∉ p.site.source.content) :
    ((Coloring.highlighter lexer).apply p.shownLine).SameButColors
        (Highlighter.plain.apply p.shownLine)
      ↔ Coloring.Untouched p.shownLine := by
  have hshown := Position.esc_not_mem_shownLine hesc
  have hcolored := stripColor_paint_eq_prepared hcovers hshown
  have hplain : Escape.stripColor p.shownLine = p.shownLine :=
    Escape.color_takesColors.remove_plain hshown
  rw [highlighter, Highlighter.apply, Highlighter.apply, Text.SameButColors,
    hcolored, hplain]
  exact prepared_eq_self_iff

namespace Session

/-- In a known language colour can be turned on and off, and a diagnostic is the
same but for colours just if no carriage return is inside of the line that it
shows and no byte order mark is at the start of that line. If the one cannot be
drawn, the other cannot, for the same reason. -/
theorem color_keeps_diagnostic_iff {languages : Languages} {s : Settings}
    {lexer : Lexer} (hlanguage : languages s.language = some lexer)
    (hcovers : lexer.Covers) (room : Nat) (message : Message)
    (position : Option Position)
    (hesc : ∀ p, position = some p → Escape.esc ∉ p.site.source.content)
    (kind : Option Text) (pageWidth : Option Int) :
    ∃ colored plain,
      renderer room languages { s with color := true } = .ok colored
      ∧ renderer room languages { s with color := false } = .ok plain
      ∧ ((colored.render message position kind pageWidth).SameButColors
          (plain.render message position kind pageWidth)
        ↔ ∀ p, position = some p →
          '\r' ∉ p.shownLine ∧ p.shownLine.head? ≠ some '\uFEFF')
      ∧ ((colored.render? message position kind pageWidth
            = .ok (colored.render message position kind pageWidth)
          ∧ plain.render? message position kind pageWidth
            = .ok (plain.render message position kind pageWidth))
        ∨ ∃ fault,
          colored.render? message position kind pageWidth = .error fault
            ∧ plain.render? message position kind pageWidth = .error fault) := by
  let colored : Settings := { s with color := true }
  let plain : Settings := { s with color := false }
  have hcolored : renderer room languages colored
      = .ok (colored.rendererWith room lexer) := renderer_eq room hlanguage
  have hplain : renderer room languages plain
      = .ok (plain.rendererWith room lexer) := renderer_eq room hlanguage
  have hwidth : (colored.rendererWith room lexer).pageWidth
      = (plain.rendererWith room lexer).pageWidth := rfl
  refine ⟨_, _, hcolored, hplain, ?_,
    Renderer.render?_of_pageWidth hwidth rfl message position kind pageWidth⟩
  rw [Renderer.render_sameButColors_iff hwidth]
  exact forall₂_congr fun p hp =>
    Coloring.shownLine_sameButColors_iff hcovers (hesc p hp)

/-- A line with a tab, a separator of lines and a mark that is not at its start. -/
theorem color_keeps_diagnostic_separators :
    let position := Position.ofSite
      { source :=
          { path := Text.ofString "a"
            content := Text.ofString "x\t\u2028\uFEFF\x0b+\r\n" }
        span :=
          { startLine := 1, startColumn := 2, endLine := 1, endColumn := 3
            one_le_startLine := by decide, startLine_le_endLine := by decide
            startColumn_le_endColumn := by decide } }
    let languages : Languages := fun _ => some Mini.lexer
    let message : Message := { text := Text.ofString "m" }
    ∃ colored plain,
      renderer 80 languages { color := true } = .ok colored
      ∧ renderer 80 languages { color := false } = .ok plain
      ∧ (colored.render message (some position) none none).SameButColors
        (plain.render message (some position) none none) := by
  intro position languages message
  have hesc : ∀ p, some position = some p →
      Escape.esc ∉ p.site.source.content := by
    intro p hp
    cases hp
    decide
  have hlanguage : languages ({} : Settings).language = some Mini.lexer := rfl
  obtain ⟨colored, plain, hcolored, hplain, hsame, -⟩ :=
    color_keeps_diagnostic_iff hlanguage Mini.lexer_covers 80 message (some position)
      hesc none none
  refine ⟨colored, plain, hcolored, hplain, hsame.mpr fun p hp => ?_⟩
  cases hp
  decide

/-- A carriage return inside of a line, and a byte order mark at the start of a
text. -/
theorem color_changes_excerpt :
    let span : Span :=
      { startLine := 1, startColumn := 0, endLine := 1, endColumn := 1
        one_le_startLine := by decide, startLine_le_endLine := by decide
        startColumn_le_endColumn := by decide }
    let file (content : Text) : SourceFile := { path := Text.ofString "a", content }
    let position (content : Text) :=
      Position.ofSite { source := file content, span }
    let languages : Languages := fun _ => some Mini.lexer
    let message : Message := { text := Text.ofString "m" }
    Mini.lexer.Covers
      ∧ ∀ content ∈ ["a\rb", "\uFEFFab"].map Text.ofString,
        Escape.esc ∉ (file content).path ++ content ++ message.text
        ∧ ∀ room, ∃ colored plain,
          renderer room languages { color := true } = .ok colored
          ∧ renderer room languages { color := false } = .ok plain
          ∧ ¬ (colored.render message (position content) none none).SameButColors
            (plain.render message (position content) none none) := by
  intro span file position languages message
  refine ⟨Mini.lexer_covers, fun content hcontent => ?_⟩
  have hdifferent : ∀ content ∈ ["a\rb", "\uFEFFab"].map Text.ofString,
      Escape.esc ∉ (file content).path ++ content ++ message.text
        ∧ ¬ ((Coloring.highlighter Mini.lexer).apply
            (position content).shownLine).SameButColors
          (Highlighter.plain.apply (position content).shownLine) := by
    unfold Text.SameButColors
    decide +kernel
  obtain ⟨hesc, hshown⟩ := hdifferent content hcontent
  refine ⟨hesc, fun room => ⟨_, _, renderer_eq room rfl, renderer_eq room rfl,
    fun hsame => hshown ?_⟩⟩
  have hwidth : (({} : Settings).rendererWith room Mini.lexer).pageWidth
      = (({ color := false } : Settings).rendererWith room Mini.lexer).pageWidth := rfl
  exact (Renderer.render_sameButColors_iff hwidth message _ none none).mp hsame _ rfl

end Session

end DiagnosticConsole
