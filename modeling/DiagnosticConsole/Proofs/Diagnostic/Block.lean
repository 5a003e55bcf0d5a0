import DiagnosticConsole.Proofs.Diagnostic.Padding
import DiagnosticConsole.Proofs.Source.Chain
import DiagnosticConsole.Proofs.Source.Places
import DiagnosticConsole.Proofs.Text.Newline
import DiagnosticConsole.Proofs.Text.Pieces

/-!
# The lines of a diagnostic

A block is a list of lines, and its text is these lines one below the other. The
two say the same only if no line has a line feed in it. What the renderer puts into
a line comes from many places: a kind and paths, line numbers, a source line and what
the highlighter makes of it, and the message. The source line and the message have
been cut into lines before; of the others it has to be asked.

The message goes through a text of its own: its lines are padded, put together, and
taken apart again. Nothing gets lost on the way except for a message of one empty
line that is not padded, for nothing comes of that (`render_body_of_position`).
-/

namespace DiagnosticConsole

theorem Palette.newline_not_mem_paint {t : Text} (ht : '\n' ∉ t)
    (palette : Palette) (color : Color) : '\n' ∉ palette.paint color t := by
  have hon : '\n' ∉ color.on := by cases color <;> decide
  have hoff : '\n' ∉ Color.off := by decide
  rw [Palette.paint]
  split
  · exact ht
  · simp [hon, ht, hoff]

theorem SourceFile.newline_not_mem_shown (file : SourceFile) (line : Int) :
    '\n' ∉ Text.withoutTerminator (file.lineContent line) := by
  have hempty : '\n' ∉ Text.withoutTerminator [] := by decide
  rw [lineContent]
  split
  · exact hempty
  · rw [List.getD_eq_getElem?_getD, lines]
    generalize (line - 1).toNat = i
    rcases Nat.lt_trichotomy i (file.content.count '\n') with hlt | rfl | hgt
    · obtain ⟨row, hrow, hline⟩ := getElem?_linesOf_of_lt hlt
      rw [hline, Option.getD_some, Text.withoutTerminator_concat_newline]
      exact fun hmem => hrow ((Text.withoutTerminator_isPrefix row).subset hmem)
    · have hlast := getElem?_linesOf_append file.content []
      rw [List.append_nil, firstLine_eq, if_neg List.not_mem_nil] at hlast
      rw [hlast]
      intro hmem
      have hmem' := (Text.withoutTerminator_isPrefix _).subset hmem
      exact not_mem_lastLine file.content (by simpa using hmem')
    · rw [List.getElem?_eq_none (by rw [length_linesOf]; omega)]
      exact hempty

namespace Renderer

/-! ## Lines without a line feed -/

theorem newline_not_mem_headline {kind : Text} {file : Option Text}
    (hkind : '\n' ∉ kind) (hfile : ∀ path, file = some path → '\n' ∉ path) :
    '\n' ∉ headline kind file := by
  cases file with
  | none => simp [headline, Text.ofString, hkind]
  | some path => simp [headline, Text.ofString, hkind, hfile path rfl]

theorem newline_not_mem_copies {c : Char} (hc : c ≠ '\n') (n : Int) :
    '\n' ∉ Text.copies n c := by
  intro hmem
  exact hc (List.eq_of_mem_replicate hmem).symm

theorem newline_not_mem_headerLine {kind : Text} (hkind : '\n' ∉ kind)
    {file : Option Text} (hfile : ∀ path, file = some path → '\n' ∉ path)
    (pageWidth : Int) : '\n' ∉ headerLine kind file pageWidth := by
  have hsaid := newline_not_mem_headline hkind hfile
  have hrule := newline_not_mem_copies (show '-' ≠ '\n' by decide)
    (ruleLength kind file pageWidth)
  simp [headerLine, rule, hsaid, hrule]

theorem newline_not_mem_inlinedAt {kind : Text} {outer : Position}
    (hkind : '\n' ∉ kind) (hfile : '\n' ∉ outer.file) (pageWidth : Int) :
    ∀ line ∈ inlinedAt kind pageWidth outer, '\n' ∉ line := by
  have hheader : '\n' ∉ headerLine kind (some outer.file) pageWidth := by
    refine newline_not_mem_headerLine hkind (fun path h => ?_) pageWidth
    rw [← Option.some.inj h]
    exact hfile
  have hrule := newline_not_mem_copies (show '-' ≠ '\n' by decide) pageWidth
  have hlabel : '\n' ∉ outer.label := by
    have hdigits := fun n => Text.not_mem_ofNat (show '\n'.isDigit = false by decide) n
    simp [Position.label, hfile, hdigits]
  intro line hline
  rw [inlinedAt, List.mem_cons, List.mem_cons, List.mem_singleton] at hline
  rcases hline with rfl | rfl | rfl
  · exact hheader
  · simp [Text.ofString, hlabel]
  · exact hrule

theorem newline_not_mem_headerLines {kind : Text} {position : Option Position}
    (hkind : '\n' ∉ kind)
    (hfiles : ∀ p, position = some p → ∀ q ∈ p.chain, '\n' ∉ q.file)
    (pageWidth : Int) :
    ∀ line ∈ headerLines kind pageWidth position, '\n' ∉ line := by
  intro line hline
  cases position with
  | none =>
      rw [headerLines, List.mem_singleton] at hline
      rw [hline]
      exact newline_not_mem_headerLine hkind (fun path h => by cases h) pageWidth
  | some p =>
      have hchain := hfiles p rfl
      rw [headerLines, List.mem_append, List.mem_flatMap, List.mem_singleton]
        at hline
      rcases hline with ⟨q, hq, hline⟩ | rfl
      · have hmem := List.mem_of_mem_drop (List.mem_reverse.mp hq)
        exact newline_not_mem_inlinedAt hkind (hchain q hmem) pageWidth line hline
      · refine newline_not_mem_headerLine hkind (fun path h => ?_) pageWidth
        rw [← Option.some.inj h]
        exact hchain p (List.mem_of_getElem? (Position.getElem?_chain_zero p))

theorem newline_not_mem_columnMarker (r : Renderer) (p : Position)
    (offset : Int) : '\n' ∉ r.columnMarker p offset := by
  have hmargin := newline_not_mem_copies (show ' ' ≠ '\n' by decide)
    (offset + p.span.startColumn)
  have hcarets := newline_not_mem_copies (show '^' ≠ '\n' by decide) (caretCount p)
  rw [columnMarker]
  split
  · rw [List.mem_append, not_or]
    exact ⟨hmargin, Palette.newline_not_mem_paint hcarets r.palette .red⟩
  · refine Palette.newline_not_mem_paint ?_ r.palette .red
    rw [List.mem_append, not_or]
    exact ⟨hmargin, by decide⟩

/-! ## The message -/

theorem spaces_eq_nil_iff {n : Int} : Text.spaces n = [] ↔ n ≤ 0 := by
  rw [Text.spaces, Text.copies, List.replicate_eq_nil_iff]
  omega

/-- The lines of a message come out of its text as they were put in, except for an
empty line that is all there is and has no padding. -/
theorem pieces_of_padded {lines : List Text} (hlines : ∀ line ∈ lines, '\n' ∉ line)
    {p : Int} (hp : 0 ≤ p) :
    let padded := lines.map (Text.spaces p ++ ·)
    (if (Text.unlines padded).isEmpty then []
        else Text.pieces '\n' (Text.unlines padded))
      = if lines = [[]] ∧ p = 0 then [] else padded := by
  intro padded
  have hempty : padded = [[]] ↔ lines = [[]] ∧ p = 0 := by
    simp only [padded, List.map_eq_singleton_iff, List.append_eq_nil_iff,
      spaces_eq_nil_iff]
    constructor
    · rintro ⟨line, rfl, hspaces, rfl⟩
      exact ⟨rfl, by omega⟩
    · rintro ⟨rfl, rfl⟩
      exact ⟨[], rfl, Int.le_refl 0, rfl⟩
  have hpadded : ∀ line ∈ padded, '\n' ∉ line := by
    have hspaces := newline_not_mem_copies (show ' ' ≠ '\n' by decide) p
    simpa [padded, Text.spaces, hspaces] using hlines
  simp only [← hempty]
  by_cases hnil : Text.unlines padded = []
  · rw [hnil, List.isEmpty_nil, if_pos rfl]
    rcases Text.unlines_eq_nil_iff.mp hnil with h | h
    · rw [h]
      rfl
    · rw [if_pos h]
  · have hboth := mt Text.unlines_eq_nil_iff.mpr hnil
    rw [not_or] at hboth
    rw [List.isEmpty_eq_false_iff.mpr hnil, if_neg (by decide),
      Text.pieces_unlines hboth.1 hpadded, if_neg hboth.2]

/-! ## The block -/

/-- At a position a diagnostic shows the source line, the carets, and the lines of
the message with one padding. -/
theorem render_body_of_position (r : Renderer) (message : Message) (p : Position)
    (kind : Option Text) (pageWidth : Option Int) :
    let lines := Text.lineContents message.text
    let offset : Nat := (r.sourceLine p).2
    let padding := margin p offset (pageWidth.getD r.pageWidth) lines
    (r.render message (some p) kind pageWidth).body
      = (r.sourceLine p).1 :: r.columnMarker p offset
        :: if lines = [[]] ∧ padding = 0 then []
          else lines.map (Text.spaces padding ++ ·) := by
  intro lines offset padding
  have hfits : Fits p offset (pageWidth.getD r.pageWidth) lines padding :=
    fits_margin (Int.natCast_nonneg offset)
  rw [← pieces_of_padded (fun line => Text.newline_not_mem_lineContents)
    hfits.nonneg, ← messageLines_eq]
  rfl

section Lines

variable (r : Renderer) (message : Message) (position : Option Position)
  (kind : Option Text) (pageWidth : Option Int)

/-- No line of a diagnostic has a line feed, unless its kind, a path or the
highlighter brings one in. -/
theorem newline_not_mem_render
    (hhighlighter : ∀ t, '\n' ∉ t → '\n' ∉ r.highlighter.apply t)
    (hkind : '\n' ∉ kind.getD message.kind)
    (hfiles : ∀ p, position = some p → ∀ q ∈ p.chain, '\n' ∉ q.file) :
    ∀ line ∈ (r.render message position kind pageWidth).lines, '\n' ∉ line := by
  have hheader : ∀ line ∈ r.header position (kind.getD message.kind) pageWidth,
      '\n' ∉ line := by
    intro line hline
    obtain ⟨unpainted, hmem, rfl⟩ := List.mem_map.mp hline
    exact Palette.newline_not_mem_paint
      (newline_not_mem_headerLines hkind hfiles _ unpainted hmem) r.palette .blue
  intro line hline
  rcases List.mem_append.mp hline with hline | hline
  · cases position with
    | none => exact hheader line hline
    | some p => exact hheader line hline
  · cases position with
    | none => exact Text.newline_not_mem_lineContents hline
    | some p =>
        rw [render_body_of_position, List.mem_cons, List.mem_cons] at hline
        rcases hline with rfl | rfl | hline
        · rw [sourceLine, lineLabel]
          have hshown := hhighlighter _
            (p.site.source.newline_not_mem_shown p.span.startLine)
          have hdigits := Text.not_mem_ofNat (show '\n'.isDigit = false by decide)
            p.span.startLine
          simpa [hdigits, Position.lineContent] using hshown
        · exact newline_not_mem_columnMarker r p _
        · split at hline
          · cases hline
          · obtain ⟨content, hcontent, rfl⟩ := List.mem_map.mp hline
            rw [List.mem_append, not_or]
            exact ⟨newline_not_mem_copies (by decide) _,
              Text.newline_not_mem_lineContents hcontent⟩

theorem lines_render_ne_nil :
    (r.render message position kind pageWidth).lines ≠ [] := by
  cases position with
  | none => simp [Block.lines, render, header, headerLines]
  | some p => simp [Block.lines, render, header, headerLines]

/-- If no kind, path or highlighter brings in a line feed, the lines of a diagnostic
are those of its text. Without a position its body is the lines of the message; at a
position it is the source line, the carets and the lines of the message, in order and
with one padding, but for a single empty line without padding, of which there is
nothing. It can be drawn unless the page, the carets or their margin are wider than
any run. -/
theorem render_is_its_lines
    (hhighlighter : ∀ t, '\n' ∉ t → '\n' ∉ r.highlighter.apply t)
    (hkind : '\n' ∉ kind.getD message.kind)
    (hfiles : ∀ p, position = some p → ∀ q ∈ p.chain, '\n' ∉ q.file) :
    let block := r.render message position kind pageWidth
    let lines := Text.lineContents message.text
    Text.pieces '\n' block.text = block.lines
      ∧ (∀ drawn, r.render? message position kind pageWidth = .ok drawn →
        drawn = block)
      ∧ (pageWidth.getD r.pageWidth ≤ Extent.longest r.room →
        (∀ p, position = some p →
          ((lineLabel p).length : Int) + p.span.startColumn ≤ Extent.longest r.room
            ∧ caretCount p ≤ Extent.longest r.room) →
        r.render? message position kind pageWidth = .ok block)
      ∧ (position = none → block.body = lines)
      ∧ ∀ p, position = some p →
        let offset : Nat := (r.sourceLine p).2
        let padding := margin p offset (pageWidth.getD r.pageWidth) lines
        0 ≤ padding
          ∧ block.body
            = (r.sourceLine p).1 :: r.columnMarker p offset
              :: if lines = [[]] ∧ padding = 0 then []
                else lines.map (Text.spaces padding ++ ·) := by
  intro block lines
  refine ⟨?_, fun drawn => eq_render_of_render?,
    render?_eq_ok r message position kind pageWidth, ?_, ?_⟩
  · exact Text.pieces_unlines (lines_render_ne_nil r message position kind pageWidth)
      (newline_not_mem_render r message position kind pageWidth hhighlighter hkind
        hfiles)
  · rintro rfl
    rfl
  · rintro p rfl
    exact ⟨(fits_margin (Int.natCast_nonneg _)).nonneg,
      render_body_of_position r message p kind pageWidth⟩

end Lines

/-- A message of one empty line on a page without room, about a source line with a
carriage return in it that was inlined at another. -/
theorem render_is_its_lines_empty_message :
    let site (path : String) : Site :=
      { source :=
          { path := Text.ofString path, content := Text.ofString "a\rb\r\n" }
        span := ⟨1, 0, 1, 1, by decide, by decide, by decide⟩ }
    let graph := ExpansionGraph.ofLinks #[(site "in", some 1), (site "out", none)]
    let p : Position := ⟨graph, ⟨0, by decide⟩⟩
    let r : Renderer := { pageWidth := 0, palette := { enabled := false } }
    let message : Message := { text := ['\n'], kind := ['k'] }
    let block := r.render message (some p) none none
    (∀ q ∈ p.chain, '\n' ∉ q.file)
      ∧ Text.pieces '\n' block.text = block.lines
      ∧ r.render? message (some p) none none = .ok block
      ∧ block.body = [Text.ofString "1:a\rb", Text.ofString "  ^"] := by
  intro site graph p r message block
  have hfiles : ∀ q ∈ p.chain, '\n' ∉ q.file := by
    have hall : p.chain.all fun q => !q.file.contains '\n' := by decide +kernel
    intro q hq
    simpa using List.all_eq_true.mp hall q hq
  obtain ⟨htext, -, hdrawn, -, hbody⟩ := render_is_its_lines r message (some p) none none
    (fun t h => h) (by decide) (fun q h => Option.some.inj h ▸ hfiles)
  have hmarker : ∀ q, some p = some q →
      ((lineLabel q).length : Int) + q.span.startColumn ≤ Extent.longest r.room
        ∧ caretCount q ≤ Extent.longest r.room := by
    rintro q ⟨⟩
    decide +kernel
  exact ⟨hfiles, htext, hdrawn (by decide) hmarker,
    (hbody p rfl).2.trans (by decide +kernel)⟩

end Renderer

end DiagnosticConsole
