import DiagnosticConsole.Diagnostic.Renderer
import DiagnosticConsole.Proofs.Terminal.Cells

/-!
# Carets and cells

The margin of the carets counts characters: as many blanks as the excerpt has
characters in front of the text that the diagnostic is about. A terminal counts
cells. So the first caret is drawn in the cell of that text just if the excerpt
takes as many cells there as it has characters, and a wide character or a combining
mark further to the left moves the one and not the other.

Which lines are safe can be told from their characters. The line number is printable
ASCII and takes a cell a character, and behind it the carets of every position up to
some column are in their cells just if all characters up to there take one cell
(`Terminal.TakesOneCell`).
-/

namespace DiagnosticConsole

/-- The first caret in the body of a diagnostic is drawn in the cell where the
excerpt goes on behind so many of its characters. -/
def CaretInCell (body : List Text) (characters : Nat) : Prop :=
  ∃ excerpt marker words, body = excerpt :: marker :: words
    ∧ (marker.takeWhile (· != '^')).count ' '
      = Terminal.width (excerpt.take characters)

namespace Terminal

theorem takesOneCell_of_isPrintableAscii {c : Char}
    (h : isPrintableAscii c = true) (before : Text) : TakesOneCell before c := by
  have hbounds := isPrintableAscii_iff.mp h
  have hselector : c ≠ selectorMark := by
    rintro rfl
    exact absurd hbounds.2 (by decide)
  have hcells : cellsOf c = some 1 := by simp [cellsOf, hbounds]
  rw [TakesOneCell, if_neg hselector]
  refine .inr ⟨hcells, fun hjoins => ?_⟩
  have hjoin := hjoins.2.2
  rw [breakClass_of_isPrintableAscii h] at hjoin
  cases hjoin

end Terminal

namespace Renderer

/-- The number in front of a line. -/
def labelOf (line : Nat) : Text := Text.ofNat line ++ [':']

/-- What is shown of a line. -/
def shownOf (file : SourceFile) (line : Nat) : Text :=
  Text.withoutTerminator (file.lineContent line)

theorem isPrintableAscii_labelOf (line : Nat) :
    ∀ c ∈ labelOf line, Terminal.isPrintableAscii c = true := by
  intro c hc
  have hdigits : ∀ n < 0x80, 0x30 ≤ n → n ≤ 0x39 →
      Terminal.isPrintableAscii (Char.ofNat n) = true := by decide +kernel
  rcases List.mem_append.mp hc with hc | hc
  · have hdigit := Nat.isDigit_of_mem_toDigits (by decide) (by decide) hc
    rw [Char.isDigit, Bool.and_eq_true, decide_eq_true_eq, decide_eq_true_eq,
      ge_iff_le, UInt32.le_iff_toNat_le, UInt32.le_iff_toNat_le] at hdigit
    rw [← Char.ofNat_toNat c]
    exact hdigits c.toNat (Nat.lt_of_le_of_lt hdigit.2 (by decide)) hdigit.1
      hdigit.2
  · rw [List.mem_singleton.mp hc]
    decide +kernel

theorem exists_paint_eq (palette : Palette) (color : Color) (t : Text) :
    ∃ on off, palette.paint color t = on ++ t ++ off ∧ '^' ∉ on
      ∧ on.count ' ' = 0 := by
  rw [Palette.paint]
  split
  · exact ⟨[], [], by simp, by simp, rfl⟩
  · refine ⟨color.on, Color.off, rfl, ?_, ?_⟩
    · cases color <;> decide
    · cases color <;> decide

theorem exists_carets_eq (p : Position) :
    ∃ more, Text.copies (caretCount p) '^' = '^' :: more := by
  have hpos : 1 ≤ caretCount p := Int.le_max_left _ _
  obtain ⟨n, hn⟩ : ∃ n, (caretCount p).toNat = n + 1 :=
    ⟨(caretCount p).toNat - 1, by omega⟩
  rw [Text.copies, hn, List.replicate_succ]
  exact ⟨_, rfl⟩

/-- In front of the first caret there are as many blanks as the margin is wide,
whether it is painted or not. -/
theorem blanks_before_caret (r : Renderer) (p : Position) (offset : Nat) :
    ((r.columnMarker p offset).takeWhile (· != '^')).count ' '
      = offset + p.span.startColumn := by
  have hcut : ∀ {before more : Text}, '^' ∉ before →
      (before ++ '^' :: more).takeWhile (· != '^') = before := by
    intro before more hbefore
    rw [List.takeWhile_append_of_pos (by
      intro c hc
      rw [bne_iff_ne]
      rintro rfl
      exact hbefore hc), List.takeWhile_cons_of_neg (by simp), List.append_nil]
  have hmargin : Text.spaces (offset + p.span.startColumn : Int)
      = List.replicate (offset + p.span.startColumn) ' ' := rfl
  have hblank : '^' ∉ List.replicate (offset + p.span.startColumn) ' ' := by
    intro hmem
    exact absurd (List.eq_of_mem_replicate hmem) (by decide)
  rw [columnMarker]
  simp only [hmargin]
  split
  · obtain ⟨more, hcarets⟩ := exists_carets_eq p
    obtain ⟨on, off, hpaint, hon, hcount⟩ :=
      exists_paint_eq r.palette .red (Text.copies (caretCount p) '^')
    rw [hpaint, hcarets, List.append_assoc, List.cons_append, ← List.append_assoc,
      hcut (by simp [hblank, hon])]
    simp [hcount]
  · obtain ⟨on, off, hpaint, hon, hcount⟩ := exists_paint_eq r.palette .red
      (List.replicate (offset + p.span.startColumn) ' ' ++ ['^'])
    rw [hpaint, ← List.append_assoc, List.append_assoc, List.singleton_append,
      hcut (by simp [hblank, hon])]
    simp [hcount]

/-- What is drawn of a plain excerpt up to a column of its line. -/
theorem take_sourceLine {r : Renderer} (hplain : r.highlighter = .plain)
    (p : Position) (column : Nat) :
    (r.sourceLine p).1.take ((lineLabel p).length + column)
      = lineLabel p
        ++ (Text.withoutTerminator p.lineContent).take column := by
  rw [sourceLine, hplain, List.take_length_add_append]
  rfl

/-- The first caret is drawn in the cell of the text that a diagnostic is about just
if the excerpt takes as many cells in front of it as it has characters. -/
theorem caretInCell_iff {r : Renderer} (hplain : r.highlighter = .plain)
    (p : Position) (message : Message) (kind : Option Text)
    (pageWidth : Option Int) :
    CaretInCell (r.render message (some p) kind pageWidth).body
        ((lineLabel p).length + p.span.startColumn)
      ↔ Terminal.width (lineLabel p
          ++ (Text.withoutTerminator p.lineContent).take p.span.startColumn)
        = (lineLabel p).length + p.span.startColumn := by
  have hblanks := r.blanks_before_caret p (lineLabel p).length
  rw [← take_sourceLine hplain]
  constructor
  · rintro ⟨excerpt, marker, words, hbody, hcell⟩
    obtain ⟨rfl, hrest⟩ := List.cons.inj hbody
    obtain ⟨rfl, -⟩ := List.cons.inj hrest
    exact hcell.symm.trans hblanks
  · intro hwidth
    exact ⟨_, _, _, rfl, hblanks.trans hwidth.symm⟩

/-! ## Lines -/

theorem stands_labelOf (line : Nat) :
    (Terminal.Reading.read (labelOf line)).Stands (labelOf line) := by
  have hascii := isPrintableAscii_labelOf line
  have hblank : (Terminal.Reading.read []).Stands [] := .blank
  refine hblank.append (fun c hc => .inr ?_) fun u c hu => ?_
  · exact Terminal.isPrintable_of_isPrintableAscii (hascii c hc)
  · have hmem : c ∈ labelOf line := hu.subset (by simp)
    exact Terminal.takesOneCell_of_isPrintableAscii (hascii c hmem) _

/-- With printable characters and tabs there is nothing to take out before a text is
measured. -/
theorem width_eq_of_printable {t : Text}
    (h : ∀ c ∈ t, c = '\t' ∨ Text.isPrintable c = true) :
    Terminal.width t = Terminal.clusterSum t := by
  have hesc : Escape.esc ∉ t := by
    intro hmem
    have hnot : ¬ (Escape.esc = '\t' ∨ Text.isPrintable Escape.esc = true) := by
      decide +kernel
    exact hnot (h _ hmem)
  rw [Terminal.width_eq_clusterSum, Escape.stripAll_plain hesc]

/-- A line of printable characters and tabs takes a cell a character, and so does
each of its beginnings, just as long as each of its characters takes one cell. -/
theorem width_labelOf_append_iff (line : Nat) {s : Text}
    (hs : ∀ c ∈ s, c = '\t' ∨ Text.isPrintable c = true) :
    (∀ u, u <+: s →
        Terminal.width (labelOf line ++ u) = (labelOf line).length + u.length)
      ↔ ∀ u c, u ++ [c] <+: s → Terminal.TakesOneCell (labelOf line ++ u) c := by
  have hascii := isPrintableAscii_labelOf line
  rw [← Terminal.clusterSum_append_iff (stands_labelOf line)
    (Terminal.clusterSum_of_isPrintableAscii hascii) hs]
  refine forall₂_congr fun u hu => ?_
  rw [width_eq_of_printable]
  intro c hc
  rcases List.mem_append.mp hc with hc | hc
  · exact .inr (Terminal.isPrintable_of_isPrintableAscii (hascii c hc))
  · exact hs c (hu.subset hc)

/-- Behind the number of its line a caret has a margin of one blank for each
character, so on a line of printable characters and tabs the first carets of all
positions up to a column are in their cells just if every character in front of that
column takes one cell where it stands. -/
theorem carets_in_cells_iff {r : Renderer} (hplain : r.highlighter = .plain)
    (file : SourceFile) {line : Nat} (hline : 1 ≤ line)
    (hshown : ∀ c ∈ shownOf file line, c = '\t' ∨ Text.isPrintable c = true)
    {column : Nat} (hcolumn : column ≤ (shownOf file line).length) :
    (∀ p : Position, p.site.source = file → p.span.startLine = line →
        ((r.columnMarker p (labelOf line).length).takeWhile (· != '^')).count ' '
          = (labelOf line).length + p.span.startColumn)
      ∧ ((∀ p : Position, p.site.source = file → p.span.startLine = line →
          p.span.startColumn ≤ column → ∀ message kind pageWidth,
            CaretInCell (r.render message (some p) kind pageWidth).body
              ((labelOf line).length + p.span.startColumn))
        ↔ ∀ u c, u ++ [c] <+: (shownOf file line).take column →
            Terminal.TakesOneCell (labelOf line ++ u) c) := by
  refine ⟨fun p _ _ => r.blanks_before_caret p _, ?_⟩
  rw [← width_labelOf_append_iff line
    fun c hc => hshown c (List.mem_of_mem_take hc)]
  constructor
  · intro hcells u hu
    have hlength := hu.length_le
    have htake : u = (shownOf file line).take u.length :=
      List.prefix_iff_eq_take.mp (hu.trans (List.take_prefix column _))
    have hle : u.length ≤ column := by
      rw [List.length_take] at hlength
      omega
    let p := Position.ofSite
      { source := file
        span := ⟨line, u.length, line, u.length, hline, Nat.le_refl line,
          fun _ => Nat.le_refl _⟩ }
    have hwidth := (caretInCell_iff hplain p _ none none).mp
      (hcells p rfl rfl hle { text := [] } none none)
    change Terminal.width (labelOf line ++ (shownOf file line).take u.length)
      = (labelOf line).length + u.length at hwidth
    rwa [← htake] at hwidth
  · rintro hwidths p rfl rfl hle message kind pageWidth
    have hu : (shownOf p.site.source p.span.startLine).take p.span.startColumn
        <+: (shownOf p.site.source p.span.startLine).take column :=
      List.take_prefix_take_left hle
    have hwidth := hwidths _ hu
    rw [List.length_take,
      Nat.min_eq_left (Nat.le_trans hle hcolumn)] at hwidth
    exact (caretInCell_iff hplain p message kind pageWidth).mpr hwidth

/-- A tab, a heart that a selector widens, and a wide character in front of which
the caret still stands. -/
theorem carets_in_cells_iff_heart :
    let file : SourceFile :=
      { path := ['p'], content := Text.ofString "\t❤\uFE0F世x\n" }
    let r : Renderer := { pageWidth := 40, palette := { enabled := false } }
    (∀ c ∈ shownOf file 1, c = '\t' ∨ Text.isPrintable c = true)
      ∧ 3 ≤ (shownOf file 1).length
      ∧ ∀ p : Position, p.site.source = file → p.span.startLine = 1 →
        p.span.startColumn ≤ 3 → ∀ message kind pageWidth,
          CaretInCell (r.render message (some p) kind pageWidth).body
            (2 + p.span.startColumn) := by
  intro file r
  have hall : (shownOf file 1).all (fun c => c == '\t' || Text.isPrintable c)
      = true := by decide +kernel
  have hshown : ∀ c ∈ shownOf file 1, c = '\t' ∨ Text.isPrintable c = true := by
    simpa using hall
  have hone : ∀ n (h : n < ((shownOf file 1).take 3).length),
      Terminal.TakesOneCell (labelOf 1 ++ ((shownOf file 1).take 3).take n)
        ((shownOf file 1).take 3)[n] := by
    decide +kernel
  refine ⟨hshown, by decide +kernel, ?_⟩
  refine (carets_in_cells_iff rfl file (by decide) hshown (by decide +kernel)).2.mpr
    fun u c hu => ?_
  have hlt : u.length < ((shownOf file 1).take 3).length := by
    have hle := hu.length_le
    rwa [List.length_append, List.length_singleton] at hle
  have hc := hu.getElem (by simp : u.length < (u ++ [c]).length)
  have hu' := List.prefix_iff_eq_take.mp ((List.prefix_append u [c]).trans hu)
  rw [List.getElem_concat_length rfl] at hc
  have := hone u.length hlt
  rwa [← hu', ← hc] at this

/-- Behind a wide character there is a blank too few. -/
theorem carets_miss_wide_character :
    let file : SourceFile := { path := ['p'], content := Text.ofString "世x" }
    let r : Renderer := { pageWidth := 40, palette := { enabled := false } }
    let p := Position.ofSite
      { source := file, span := ⟨1, 1, 1, 2, by decide, by decide, by decide⟩ }
    (shownOf file 1).all Text.isPrintable = true
      ∧ (r.columnMarker p 2).takeWhile (· != '^') = List.replicate 3 ' '
      ∧ Terminal.width ((r.sourceLine p).1.take 3) = 4
      ∧ ¬ CaretInCell (r.render { text := [] } (some p) none none).body 3 := by
  intro file r p
  refine ⟨by decide +kernel, by decide +kernel, by decide +kernel, ?_⟩
  have hcharacters : (lineLabel p).length + p.span.startColumn = 3 := by
    decide +kernel
  have hwidth : Terminal.width
      (lineLabel p
        ++ (Text.withoutTerminator p.lineContent).take p.span.startColumn) ≠ 3 := by
    decide +kernel
  rw [← hcharacters, caretInCell_iff rfl]
  exact hcharacters ▸ hwidth

end Renderer

end DiagnosticConsole
