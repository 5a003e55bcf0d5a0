import DiagnosticConsole.Proofs.Evaluation.Columns
import DiagnosticConsole.Proofs.Evaluation.Location
import DiagnosticConsole.Proofs.Text.Ends

/-!
# Where a frame is in its source

A frame names its end and its columns or does not, and what it names need not be
in order, on a line of its source or within that line. Its span is in the source
all the same. Columns are counted in the bytes of a line, of which no prefix is
read as more characters than the line has; the end is taken only where the source
has its line; and an end before the start is moved up to it. So the span of a
frame never leaves the lines it names, and the only thing a frame needs for one is
a line of its own that the source has (`tracebackSite_within_innermost`).
-/

namespace DiagnosticConsole

/-- A span begins and ends on lines that a source has and within them, and does
not end before it begins. -/
structure SourceFile.Holds (source : SourceFile) (span : Span) : Prop where
  ordered : span.startLine < span.endLine
    ∨ span.startLine = span.endLine ∧ span.startColumn ≤ span.endColumn
  endLine : span.endLine ≤ source.lineCount
  startColumn : span.startColumn ≤ (source.lineContent span.startLine).length
  endColumn : span.endColumn ≤ (source.lineContent span.endLine).length

/-- A line of a source without its terminator. -/
def SourceFile.bareLine (source : SourceFile) (line : Int) : Text :=
  Text.withoutTerminator (source.lineContent line)

/-- The blanks that a line of a source begins with. -/
def SourceFile.margin (source : SourceFile) (line : Int) : Nat :=
  ((source.bareLine line).takeWhile Text.isBlank).length

/-- A span is a line of a source from its first character that is no blank to its
terminator; of a blank line it is the empty span at its end. -/
structure SourceFile.CoversLine (source : SourceFile) (line : Int)
    (span : Span) : Prop where
  startLine : (span.startLine : Int) = line
  startColumn : span.startColumn = source.margin line
  endLine : (span.endLine : Int) = line
  endColumn : span.endColumn = (source.bareLine line).length
  blank : (source.bareLine line).all Text.isBlank = true →
    span.startColumn = span.endColumn

namespace Evaluation

variable {sources : Table SourceFile} {frames : List Frame} {frame : Frame}
  {source : SourceFile} {line : Int}

/-! ## Bounds -/

theorem bareLine_length_le (source : SourceFile) (line : Int) :
    (source.bareLine line).length ≤ (source.lineContent line).length :=
  (Text.withoutTerminator_isPrefix (source.lineContent line)).length_le

theorem margin_le (source : SourceFile) (line : Int) :
    source.margin line ≤ (source.bareLine line).length :=
  (List.takeWhile_sublist _).length_le

theorem margin_of_blank (h : (source.bareLine line).all Text.isBlank = true) :
    source.margin line = (source.bareLine line).length := by
  have hall : (source.bareLine line ++ []).takeWhile Text.isBlank
      = source.bareLine line ++ [].takeWhile Text.isBlank :=
    List.takeWhile_append_of_pos (List.all_eq_true.mp h)
  rw [List.append_nil, List.takeWhile_nil, List.append_nil] at hall
  rw [SourceFile.margin, hall]

theorem margin_eq (source : SourceFile) (line : Int) :
    ((source.bareLine line).length
        - (Text.trimStart (source.bareLine line)).length : Int)
      = source.margin line := by
  have hparts := congrArg List.length (List.takeWhile_append_dropWhile
    (p := Text.isBlank) (l := source.bareLine line))
  rw [List.length_append] at hparts
  rw [SourceFile.margin, Text.trimStart]
  omega

/-- A frame has no columns to go by if it lacks one of them or ends past its
source. -/
def LacksColumns (source : SourceFile) (frame : Frame) (line : Int) : Prop :=
  frame.column = none ∨ frame.endColumn = none
    ∨ (source.lineCount : Int) < frame.endLine.getD line

theorem frameBounds_of_lacksColumns (h : LacksColumns source frame line) :
    frameBounds source frame line
      = ((source.margin line : Int), line,
          ((source.bareLine line).length : Int)) := by
  have hwhole : (((source.bareLine line).length
        - (Text.trimStart (source.bareLine line)).length : Int), line,
          ((source.bareLine line).length : Int))
      = ((source.margin line : Int), line,
          ((source.bareLine line).length : Int)) := by
    rw [margin_eq]
  rw [frameBounds]
  split
  · next column endColumn hcolumn hendColumn =>
      have hpast : ¬ frame.endLine.getD line ≤ source.lineCount := by
        rcases h with h | h | h
        · rw [hcolumn] at h
          cases h
        · rw [hendColumn] at h
          cases h
        · omega
      rw [if_neg hpast]
      exact hwhole
  · exact hwhole

theorem frameBounds_of_columns (h : ¬ LacksColumns source frame line) :
    ∃ column endColumn : Int,
      frame.endLine.getD line ≤ source.lineCount
        ∧ frameBounds source frame line
          = ((charColumn (source.lineContent line) column : Int),
              frame.endLine.getD line,
              (charColumn (source.lineContent (frame.endLine.getD line))
                endColumn : Int)) := by
  rw [LacksColumns, not_or, not_or, Int.not_lt] at h
  obtain ⟨hcolumn, hendColumn, hend⟩ := h
  obtain ⟨column, hcolumn⟩ := Option.ne_none_iff_exists'.mp hcolumn
  obtain ⟨endColumn, hendColumn⟩ := Option.ne_none_iff_exists'.mp hendColumn
  refine ⟨column, endColumn, hend, ?_⟩
  rw [frameBounds, hcolumn, hendColumn]
  exact if_pos hend

/-- The bounds of a frame are on lines of its source and within them. -/
theorem frameBounds_within (frame : Frame) (hlast : line ≤ source.lineCount) :
    (frameBounds source frame line).1 ≤ (source.lineContent line).length
      ∧ (frameBounds source frame line).2.1 ≤ source.lineCount
      ∧ (frameBounds source frame line).2.2
        ≤ (source.lineContent (frameBounds source frame line).2.1).length := by
  have hbare := bareLine_length_le source line
  have hmargin := margin_le source line
  by_cases hlacks : LacksColumns source frame line
  · rw [frameBounds_of_lacksColumns hlacks]
    exact ⟨Int.ofNat_le.mpr (Nat.le_trans hmargin hbare), hlast,
      Int.ofNat_le.mpr hbare⟩
  · obtain ⟨column, endColumn, hend, hbounds⟩ := frameBounds_of_columns hlacks
    rw [hbounds]
    exact ⟨Int.ofNat_le.mpr (charColumn_le_length _ _), hend,
      Int.ofNat_le.mpr (charColumn_le_length _ _)⟩

/-! ## Spans -/

/-- A frame on a line of its source has a span there, which is in the source. -/
theorem frameSpan_within (hline : frame.line = some line) (hfirst : 1 ≤ line)
    (hlast : line ≤ source.lineCount) :
    ∃ span, frameSpan source frame = .ok (some span)
      ∧ (span.startLine : Int) = line ∧ source.Holds span
      ∧ (LacksColumns source frame line → source.CoversLine line span) := by
  obtain ⟨span, hspan, hstart, hcolumn, hend⟩ :=
    frameSpan_of_line hline hfirst hlast
  have hmargin := margin_le source line
  refine ⟨span, hspan, hstart, ?_, fun hlacks => ?_⟩
  · have hwithin := frameBounds_within frame hlast
    rcases hcases : frameBounds source frame line with ⟨first, endLine, last⟩
    rw [hcases] at hcolumn hend hwithin
    simp only [] at hcolumn hend hwithin
    -- an end before the start has been moved up to it
    split at hend
    · obtain ⟨hspanEnd, hspanLast⟩ := Prod.mk.inj hend
      refine ⟨by omega, by omega, ?_, ?_⟩
      · rw [hstart]
        omega
      · rw [hspanEnd]
        omega
    · next hclamp =>
        obtain ⟨hspanEnd, hspanLast⟩ := Prod.mk.inj hend
        rw [not_or, not_and] at hclamp
        refine ⟨by omega, by omega, ?_, ?_⟩
        · rw [hstart]
          omega
        · rw [hspanEnd]
          omega
  · rw [frameBounds_of_lacksColumns hlacks] at hcolumn hend
    simp only [] at hcolumn hend
    rw [if_neg (by omega)] at hend
    obtain ⟨hspanEnd, hspanLast⟩ := Prod.mk.inj hend
    refine ⟨hstart, by omega, hspanEnd, by omega, fun hblank => ?_⟩
    have := margin_of_blank hblank
    omega

/-! ## The frame that counts -/

/-- A frame is the last of a list whose code has a source. -/
def IsInnermost (sources : Table SourceFile) (frames : List Frame)
    (frame : Frame) (source : SourceFile) : Prop :=
  ∃ outer inner, frames = outer ++ frame :: inner
    ∧ Table.get? sources frame.filename = some source
    ∧ ∀ f ∈ inner, Table.get? sources f.filename = none

theorem innermost_eq_some_iff :
    innermost sources frames = some (frame, source)
      ↔ IsInnermost sources frames frame source := by
  constructor
  · intro h
    obtain ⟨inner, f, outer, hframes, hfound, hinner⟩ :=
      List.findSome?_eq_some_iff.mp h
    obtain ⟨source', hsource, hpair⟩ := Option.map_eq_some_iff.mp hfound
    obtain ⟨rfl, rfl⟩ := Prod.mk.inj hpair
    refine ⟨outer.reverse, inner.reverse, ?_, hsource, fun g hg => ?_⟩
    · rw [← List.reverse_reverse frames, hframes, List.reverse_append,
        List.reverse_cons, List.append_assoc, List.singleton_append]
    · exact Option.map_eq_none_iff.mp (hinner g (List.mem_reverse.mp hg))
  · rintro ⟨outer, inner, rfl, hsource, hinner⟩
    exact innermost_eq_some outer hsource hinner

theorem innermost_eq_none_iff :
    innermost sources frames = none
      ↔ ∀ frame ∈ frames, Table.get? sources frame.filename = none := by
  simp only [innermost, List.findSome?_eq_none_iff, List.mem_reverse,
    Option.map_eq_none_iff]

/-- There is no more than one frame that counts. -/
theorem IsInnermost.unique {frame' : Frame} {source' : SourceFile}
    (h : IsInnermost sources frames frame source)
    (h' : IsInnermost sources frames frame' source') :
    frame = frame' ∧ source = source' := by
  have hsome := innermost_eq_some_iff.mpr h
  rw [innermost_eq_some_iff.mpr h'] at hsome
  obtain ⟨rfl, rfl⟩ := Prod.mk.inj (Option.some.inj hsome)
  exact ⟨rfl, rfl⟩

theorem IsInnermost.mem (h : IsInnermost sources frames frame source) :
    frame ∈ frames := by
  obtain ⟨outer, inner, rfl, -⟩ := h
  exact List.mem_append_right outer List.mem_cons_self

theorem IsInnermost.get?_eq (h : IsInnermost sources frames frame source) :
    Table.get? sources frame.filename = some source := by
  obtain ⟨-, -, -, hsource, -⟩ := h
  exact hsource

theorem tracebackSite_of_isInnermost
    (h : IsInnermost sources frames frame source) :
    tracebackSite sources frames
      = (frameSpan source frame).map fun span =>
          span.map fun span => { source, span } := by
  rw [tracebackSite, innermost_eq_some_iff.mpr h]

/-- No more is looked at than the frame that counts. -/
theorem tracebackSite_singleton (h : IsInnermost sources frames frame source) :
    tracebackSite sources [frame] = tracebackSite sources frames := by
  have hsingle : IsInnermost sources [frame] frame source :=
    ⟨[], [], rfl, h.get?_eq, fun _ hf => absurd hf List.not_mem_nil⟩
  rw [tracebackSite_of_isInnermost hsingle, tracebackSite_of_isInnermost h]

/-- A frame names no line of so many, though it may name one behind them. -/
theorem names_none_iff {count : Nat} :
    (frame.line = none ∨ ∃ line, frame.line = some line ∧ (count : Int) < line)
      ↔ ∀ line, frame.line = some line → (count : Int) < line := by
  cases frame.line with
  | none => simp
  | some line => simp

/-- The ways to an answer: no frame counts, or the one that does names no line of its
source, or it names one and has a span there. -/
theorem tracebackSite_cases
    (hlines : ∀ frame ∈ frames, ∀ line, frame.line = some line → 1 ≤ line) :
    ((∀ frame ∈ frames, Table.get? sources frame.filename = none)
        ∧ tracebackSite sources frames = .ok none)
      ∨ (∃ frame source, IsInnermost sources frames frame source
        ∧ (∀ line, frame.line = some line → (source.lineCount : Int) < line)
        ∧ tracebackSite sources frames = .ok none)
      ∨ ∃ frame source line span, IsInnermost sources frames frame source
        ∧ frame.line = some line ∧ line ≤ source.lineCount
        ∧ tracebackSite sources frames = .ok (some { source, span })
        ∧ (span.startLine : Int) = line ∧ source.Holds span
        ∧ (LacksColumns source frame line → source.CoversLine line span) := by
  cases hinnermost : innermost sources frames with
  | none =>
      refine .inl ⟨innermost_eq_none_iff.mp hinnermost, ?_⟩
      rw [tracebackSite, hinnermost]
  | some found =>
      obtain ⟨frame, source⟩ := found
      have hfound := innermost_eq_some_iff.mp hinnermost
      have hsite := tracebackSite_of_isInnermost hfound
      by_cases hplace : ∃ line, frame.line = some line ∧ line ≤ source.lineCount
      · obtain ⟨line, hline, hlast⟩ := hplace
        obtain ⟨span, hspan, hrest⟩ :=
          frameSpan_within hline (hlines frame hfound.mem line hline) hlast
        rw [hspan] at hsite
        exact .inr (.inr ⟨frame, source, line, span, hfound, hline, hlast, hsite, hrest⟩)
      · have hnowhere : ∀ line, frame.line = some line →
            (source.lineCount : Int) < line :=
          fun line h => Int.not_le.mp fun hle => hplace ⟨line, h, hle⟩
        rw [frameSpan_eq_none hnowhere] at hsite
        exact .inr (.inl ⟨frame, source, hfound, hnowhere, hsite⟩)

/-- Frames that are not before the first line always lead to an answer. It hangs
on the last frame whose code has a source alone, and is no place just if there is
no such frame or it names no line of its source. A place is in that source: it
begins on the line that the frame names, and where the frame has no columns to go
by it is that line. -/
theorem tracebackSite_within_innermost (sources : Table SourceFile)
    (frames : List Frame)
    (hlines : ∀ frame ∈ frames, ∀ line, frame.line = some line → 1 ≤ line) :
    ∃ site?, tracebackSite sources frames = .ok site?
      ∧ (∀ frame source, IsInnermost sources frames frame source →
        tracebackSite sources [frame] = .ok site?)
      ∧ (site? = none
        ↔ (∀ frame ∈ frames, Table.get? sources frame.filename = none)
          ∨ ∃ frame source, IsInnermost sources frames frame source
            ∧ (frame.line = none
              ∨ ∃ line, frame.line = some line
                ∧ (source.lineCount : Int) < line))
      ∧ ∀ site, site? = some site →
        ∃ frame line, IsInnermost sources frames frame site.source
          ∧ frame.line = some line ∧ (site.span.startLine : Int) = line
          ∧ site.source.Holds site.span
          ∧ (LacksColumns site.source frame line →
            site.source.CoversLine line site.span) := by
  rcases tracebackSite_cases hlines with ⟨hnone, hsite⟩
    | ⟨frame, source, hfound, hnowhere, hsite⟩
    | ⟨frame, source, line, span, hfound, hline, hlast, hsite, hspan⟩
  · exact ⟨none, hsite, fun _ _ h => (tracebackSite_singleton h).trans hsite,
      iff_of_true rfl (.inl hnone),
      fun site h => absurd h.symm (Option.some_ne_none site)⟩
  · exact ⟨none, hsite, fun _ _ h => (tracebackSite_singleton h).trans hsite,
      iff_of_true rfl (.inr ⟨frame, source, hfound, names_none_iff.mpr hnowhere⟩),
      fun site h => absurd h.symm (Option.some_ne_none site)⟩
  · refine ⟨some { source, span }, hsite,
      fun _ _ h => (tracebackSite_singleton h).trans hsite,
      iff_of_false (Option.some_ne_none _) ?_, ?_⟩
    · rintro (hnone | ⟨frame', source', h, hnowhere⟩)
      · have hsource := hnone frame hfound.mem
        rw [hfound.get?_eq] at hsource
        cases hsource
      · obtain ⟨rfl, rfl⟩ := hfound.unique h
        have hpast := names_none_iff.mp hnowhere line hline
        omega
    · intro site h
      obtain rfl := Option.some.inj h
      exact ⟨frame, line, hfound, hline, hspan⟩

/-- The inner frame has no source, and the outer one a column but no end to it:
its place is its line behind the margin. -/
theorem tracebackSite_within_innermost_outer :
    let source : SourceFile :=
      { path := Text.ofString "<console>", content := Text.ofString "f(\n  é)\r\n" }
    let sources : Table SourceFile := [(Text.ofString "<console#1>", source)]
    let frame : Frame :=
      { filename := Text.ofString "<console#1>", line := some 2, column := some 0 }
    let frames := [frame, { filename := Text.ofString "lib.py", line := some 7 }]
    (∀ frame ∈ frames, ∀ line, frame.line = some line → 1 ≤ line)
      ∧ ∃ site, tracebackSite sources frames = .ok (some site)
        ∧ tracebackSite sources [frame] = .ok (some site)
        ∧ site.source.Holds site.span
        ∧ site.span.startLine = 2 ∧ site.span.startColumn = 2
        ∧ site.span.endLine = 2 ∧ site.span.endColumn = 4 := by
  intro source sources frame frames
  have hlines : ∀ f ∈ frames, ∀ line, f.line = some line → 1 ≤ line := by
    intro f hf line hline
    rcases List.mem_cons.mp hf with rfl | hf
    · cases hline
      decide
    · obtain rfl := List.mem_singleton.mp hf
      cases hline
      decide
  have hfound : IsInnermost sources frames frame source :=
    ⟨[], _, rfl, rfl, by decide⟩
  obtain ⟨site?, hsite, hsingle, -, hplace⟩ :=
    tracebackSite_within_innermost sources frames hlines
  have hsome : tracebackSite sources frames
      = .ok (some { source, span := ⟨2, 2, 2, 4, by decide, by decide, by decide⟩ }) :=
    rfl
  rw [hsome] at hsite
  obtain rfl := Except.ok.inj hsite
  obtain ⟨_, _, _, _, _, hholds, _⟩ := hplace _ rfl
  exact ⟨hlines, _, hsome, hsingle frame source hfound, hholds, rfl, rfl, rfl, rfl⟩

end Evaluation

end DiagnosticConsole
