import DiagnosticConsole.Proofs.Source.Lines
import Mathlib.Algebra.GroupWithZero.Nat
import Mathlib.Data.List.Basic

/-!
# Offsets are places and places are offsets

A place is a line and a column that a file has. Only on the last line may the
column be that of the end of the line: everywhere else the end of a line is the
beginning of the next.

One direction is the cut at an offset, which `Lines` has already: the line feeds
before it and the characters since the last of them are a place, and going back
the finished lines put together with that last stretch are what stands before
the cut (`flatten_take_linesOf`). For the other direction it is enough that the
offset of a place grows with the place, line first and column second
(`offsetOf_lt_offsetOf`). Then no two places share an offset, so the place that
is found for the offset of a place can only be that place.
-/

namespace DiagnosticConsole.SourceFile

/-! ## The lines one by one -/

theorem length_linesOf (t : Text) : (linesOf t).length = 1 + t.count '\n' := by
  induction t with
  | nil => rfl
  | cons c t ih =>
      by_cases hc : c = '\n'
      · subst hc
        rw [linesOf_newline_cons, List.length_cons, ih, List.count_cons_self]
        omega
      · rw [linesOf_cons hc, List.length_cons, ← List.length_cons,
          ← linesOf_eq_cons, ih, List.count_cons_of_ne hc]

theorem not_mem_lastLine (t : Text) : '\n' ∉ lastLine t := by
  rw [lastLine, List.mem_reverse]
  intro hmem
  have hall := List.all_takeWhile (p := (· != '\n')) (l := t.reverse)
  have := List.all_eq_true.mp hall '\n' hmem
  simp at this

/-- Every line but the last ends in the one line feed that it has. -/
theorem getElem?_linesOf_of_lt {t : Text} {i : Nat} (h : i < t.count '\n') :
    ∃ row, '\n' ∉ row ∧ (linesOf t)[i]? = some (row ++ ['\n']) := by
  induction t generalizing i with
  | nil => cases h
  | cons c t ih =>
      by_cases hc : c = '\n'
      · subst hc
        rw [linesOf_newline_cons]
        cases i with
        | zero => exact ⟨[], List.not_mem_nil, rfl⟩
        | succ i =>
            rw [List.count_cons_self] at h
            exact ih (Nat.lt_of_succ_lt_succ h)
      · rw [List.count_cons_of_ne hc] at h
        obtain ⟨row, hrow, hline⟩ := ih h
        rw [linesOf_eq_cons t] at hline
        rw [linesOf_cons hc]
        cases i with
        | zero =>
            -- The character comes in front of the first line of the rest.
            have hfirst : firstLine t = row ++ ['\n'] := Option.some.inj hline
            exact ⟨c :: row, by simp [hrow, Ne.symm hc], by rw [hfirst]; rfl⟩
        | succ i => exact ⟨row, hrow, hline⟩

/-- The lines that are finished at a cut and the stretch since the last of them
are what stands before the cut. -/
theorem flatten_take_linesOf (s t : Text) :
    ((linesOf (s ++ t)).take (s.count '\n')).flatten ++ lastLine s = s := by
  induction s with
  | nil => rfl
  | cons c s ih =>
      rw [List.cons_append]
      by_cases hc : c = '\n'
      · subst hc
        rw [linesOf_newline_cons, List.count_cons_self, List.take_succ_cons,
          List.flatten_cons, lastLine_cons (by simp), List.append_assoc, ih]
        rfl
      · rw [linesOf_cons hc, List.count_cons_of_ne hc]
        by_cases hs : '\n' ∈ s
        · obtain ⟨k, hk⟩ : ∃ k, s.count '\n' = k + 1 :=
            Nat.exists_eq_succ_of_ne_zero
              (Nat.ne_of_gt (List.count_pos_iff.mpr hs))
          rw [hk, linesOf_eq_cons (s ++ t), List.take_succ_cons,
            List.flatten_cons] at ih
          rw [hk, List.take_succ_cons, List.flatten_cons,
            lastLine_cons (List.mem_cons_of_mem c hs), List.cons_append,
            List.cons_append, ih]
        · have hcs : '\n' ∉ c :: s := by simp [hs, Ne.symm hc]
          rw [List.count_eq_zero_of_not_mem hs, lastLine_of_not_mem hcs]
          rfl

/-- The lines of a file, as it is asked for them by their numbers. -/
theorem lines_eq_map (file : SourceFile) :
    file.lines
      = (List.range file.lineCount).map fun i =>
          file.lineContent (i + 1 : Nat) := by
  apply List.ext_getElem
  · rw [List.length_map, List.length_range, lineCount]
  · intro i hi _
    rw [List.getElem_map, List.getElem_range]
    exact (lineContent_eq_of_getElem? (Nat.le_add_left 1 i)
      (List.getElem?_eq_getElem hi)).symm

theorem flatten_lines (file : SourceFile) : file.lines.flatten = file.content := by
  have hall := flatten_take_linesOf file.content []
  have hlast := getElem?_linesOf_append file.content []
  rw [List.append_nil] at hall hlast
  rw [lines, ← List.take_append_drop (file.content.count '\n')
    (linesOf file.content), List.flatten_append]
  obtain ⟨hlt, hline⟩ := List.getElem?_eq_some_iff.mp hlast
  have hdrop : (linesOf file.content).drop (file.content.count '\n' + 1) = [] :=
    List.drop_eq_nil_of_le (by rw [length_linesOf]; omega)
  rw [List.drop_eq_getElem_cons hlt, hdrop, hline, List.flatten_singleton]
  exact (congrArg _ (List.append_nil _)).trans hall

/-! ## Places -/

/-- The total length of the lines before a line. -/
def lineStart (file : SourceFile) (line : Nat) : Nat :=
  ((List.range (line - 1)).map fun i =>
    (file.lineContent (i + 1 : Nat)).length).sum

/-- The offset of a line and a column. -/
def offsetOf (file : SourceFile) (place : Nat × Nat) : Nat :=
  file.lineStart place.1 + place.2

/-- A line and a column that a file has. -/
structure IsPlace (file : SourceFile) (place : Nat × Nat) : Prop where
  first : 1 ≤ place.1
  last : place.1 ≤ file.lineCount
  column : place.2 ≤ (file.lineContent place.1).length
  inside : place.1 < file.lineCount →
    place.2 < (file.lineContent place.1).length

/-- The order of places: line first, column second. -/
def Before (p q : Nat × Nat) : Prop := Prod.Lex (· < ·) (· < ·) p q

theorem lineStart_succ (file : SourceFile) {line : Nat} (hfirst : 1 ≤ line) :
    file.lineStart (line + 1)
      = file.lineStart line + (file.lineContent line).length := by
  obtain ⟨n, rfl⟩ : ∃ n, line = n + 1 := ⟨line - 1, by omega⟩
  simp only [lineStart, Nat.add_sub_cancel]
  rw [List.range_succ, List.map_append, List.sum_append]
  simp

theorem lineStart_mono (file : SourceFile) {line line' : Nat}
    (hfirst : 1 ≤ line) (hle : line ≤ line') :
    file.lineStart line ≤ file.lineStart line' := by
  induction hle with
  | refl => exact Nat.le_refl _
  | step hle ih =>
      rw [Nat.succ_eq_add_one, lineStart_succ file (Nat.le_trans hfirst hle)]
      omega

/-- Up to a line that a file has or the end, the lines before it have the length
that they have put together. -/
theorem lineStart_eq (file : SourceFile) {n : Nat} (h : n ≤ file.lineCount) :
    file.lineStart (n + 1) = (file.lines.take n).flatten.length := by
  rw [lines_eq_map, ← List.map_take, List.take_range, Nat.min_eq_left h,
    List.length_flatten, List.map_map, lineStart]
  rfl

theorem offsetOf_lt_offsetOf {file : SourceFile} {p q : Nat × Nat}
    (hp : file.IsPlace p) (hq : file.IsPlace q) (h : Before p q) :
    file.offsetOf p < file.offsetOf q := by
  rw [Before, Prod.lex_def] at h
  rcases h with hline | ⟨hline, hcolumn⟩
  · have hinside := hp.inside (Nat.lt_of_lt_of_le hline hq.last)
    have hnext := lineStart_succ file hp.first
    have hmono := lineStart_mono file (Nat.le_add_left 1 p.1)
      (Nat.succ_le_of_lt hline)
    rw [offsetOf, offsetOf]
    omega
  · rw [offsetOf, offsetOf, hline]
    omega

theorem before_or (p q : Nat × Nat) : Before p q ∨ p = q ∨ Before q p := by
  simp only [Before, Prod.lex_def, Prod.ext_iff]
  omega

theorem offsetOf_inj {file : SourceFile} {p q : Nat × Nat} (hp : file.IsPlace p)
    (hq : file.IsPlace q) (h : file.offsetOf p = file.offsetOf q) : p = q := by
  rcases before_or p q with hlt | heq | hgt
  · have := offsetOf_lt_offsetOf hp hq hlt
    omega
  · exact heq
  · have := offsetOf_lt_offsetOf hq hp hgt
    omega

theorem offsetOf_le_length {file : SourceFile} {p : Nat × Nat}
    (hp : file.IsPlace p) : file.offsetOf p ≤ file.content.length := by
  have hcolumn := hp.column
  have hnext := lineStart_succ file hp.first
  have hmono : file.lineStart (p.1 + 1) ≤ file.lineStart (file.lineCount + 1) :=
    lineStart_mono file (Nat.le_add_left 1 p.1) (Nat.succ_le_succ hp.last)
  have hend := lineStart_eq file (Nat.le_refl file.lineCount)
  rw [lineCount, List.take_length, flatten_lines, ← lineCount] at hend
  rw [offsetOf]
  omega

/-! ## From offsets to places and back -/

/-- The place of an offset is a place, and the offset is its offset. -/
theorem lineAndColumn_place (file : SourceFile) {offset : Nat}
    (h : offset ≤ file.content.length) :
    ∃ place, file.lineAndColumn offset = .ok place ∧ file.IsPlace place
      ∧ file.offsetOf place = offset := by
  refine ⟨_, lineAndColumn_eq_ok file h, ?_, ?_⟩
  · have hcut := List.take_append_drop offset file.content
    have hcount : file.lineCount
        = 1 + ((file.content.take offset).count '\n'
          + (file.content.drop offset).count '\n') := by
      rw [← List.count_append, hcut, lineCount, lines, length_linesOf]
    have hline := lineContent_append file.path (file.content.take offset)
      (file.content.drop offset)
    rw [hcut] at hline
    refine ⟨Nat.le_add_right 1 _, by omega, ?_, fun hlt => ?_⟩
    · rw [hline, List.length_append, length_lastLine]
      exact Nat.le_add_right _ _
    · -- A line feed is still to come, so the line goes on behind the cut.
      have hmem : '\n' ∈ file.content.drop offset :=
        List.count_pos_iff.mp (by simp only [] at hlt; omega)
      rw [hline, List.length_append, length_lastLine, firstLine_eq, if_pos hmem,
        List.length_append]
      simp
  · have hcut := List.take_append_drop offset file.content
    have hflat := congrArg List.length
      (flatten_take_linesOf (file.content.take offset)
        (file.content.drop offset))
    have hcount : (file.content.take offset).count '\n'
        ≤ file.content.count '\n' :=
      (List.take_sublist offset file.content).count_le '\n'
    rw [hcut, List.length_append, length_lastLine, List.length_take,
      Nat.min_eq_left h] at hflat
    rw [offsetOf, Nat.add_comm 1, lineStart_eq file (by
      rw [lineCount, lines, length_linesOf]
      omega)]
    exact hflat

theorem lineAndColumn_offsetOf {file : SourceFile} {place : Nat × Nat}
    (h : file.IsPlace place) :
    file.lineAndColumn (file.offsetOf place : Nat) = .ok place := by
  obtain ⟨found, hfound, hplace, hoffset⟩ :=
    lineAndColumn_place file (offsetOf_le_length h)
  rw [hfound, offsetOf_inj hplace h hoffset]

theorem lineAndColumn_eq_error_iff {file : SourceFile} {offset : Int}
    {fault : SpanFault} :
    file.lineAndColumn offset = .error fault
      ↔ fault = .outside offset file.path
        ∧ (offset < 0 ∨ (file.content.length : Int) < offset) := by
  rw [lineAndColumn]
  split
  · next hout =>
      rw [Except.error.injEq, eq_comm]
      exact (and_iff_left hout).symm
  · next hin =>
      constructor
      · intro h
        cases h
      · intro h
        exact absurd h.2 hin

/-- The place of an offset is the one place that has this offset. -/
theorem lineAndColumn_eq_ok_iff {file : SourceFile} {offset : Int}
    {place : Nat × Nat} :
    file.lineAndColumn offset = .ok place
      ↔ file.IsPlace place ∧ (file.offsetOf place : Int) = offset := by
  constructor
  · intro h
    have hin : ¬ (offset < 0 ∨ (file.content.length : Int) < offset) := by
      intro hout
      rw [lineAndColumn_eq_error_iff.mpr ⟨rfl, hout⟩] at h
      cases h
    obtain ⟨n, rfl⟩ := Int.eq_ofNat_of_zero_le (a := offset) (by omega)
    obtain ⟨found, hfound, hplace, hoffset⟩ :=
      lineAndColumn_place file (show n ≤ file.content.length by omega)
    rw [hfound] at h
    obtain rfl := Except.ok.inj h
    exact ⟨hplace, congrArg _ hoffset⟩
  · rintro ⟨hplace, rfl⟩
    exact lineAndColumn_offsetOf hplace

/-- The lines of a file are its text, cut behind each line feed. The offsets of
the text are the places in its lines, in the same order, and there is a place for
each offset and an offset for each place. -/
theorem lines_and_offsets (file : SourceFile) :
    file.lineCount = 1 + file.content.count '\n'
    ∧ ((List.range file.lineCount).map fun i =>
        file.lineContent (i + 1 : Nat)).flatten = file.content
    ∧ (∀ line : Nat, 1 ≤ line → line < file.lineCount →
      ∃ row, '\n' ∉ row ∧ file.lineContent line = row ++ ['\n'])
    ∧ '\n' ∉ file.lineContent file.lineCount
    ∧ (∀ (offset : Int) (fault : SpanFault),
      file.lineAndColumn offset = .error fault
        ↔ fault = .outside offset file.path
          ∧ (offset < 0 ∨ (file.content.length : Int) < offset))
    ∧ (∀ offset : Int, 0 ≤ offset → offset ≤ file.content.length →
      ∃ place, file.lineAndColumn offset = .ok place
        ∧ ∀ p, file.IsPlace p ∧ (file.offsetOf p : Int) = offset ↔ p = place)
    ∧ (∀ place, file.IsPlace place →
      ∃! offset : Int, file.lineAndColumn offset = .ok place)
    ∧ ∀ (offset offset' : Int) (place place' : Nat × Nat),
      file.lineAndColumn offset = .ok place →
      file.lineAndColumn offset' = .ok place' →
      (offset < offset' ↔ Before place place') := by
  have hcount : file.lineCount = 1 + file.content.count '\n' :=
    length_linesOf file.content
  refine ⟨hcount, ?_, fun line hfirst hlast => ?_, ?_,
    fun offset fault => lineAndColumn_eq_error_iff,
    fun offset hlow hhigh => ?_, fun place hplace => ?_,
    fun offset offset' place place' h h' => ?_⟩
  · rw [← lines_eq_map, flatten_lines]
  · obtain ⟨row, hrow, hline⟩ :=
      getElem?_linesOf_of_lt (t := file.content) (i := line - 1) (by omega)
    exact ⟨row, hrow, lineContent_eq_of_getElem? hfirst hline⟩
  · have hlast := lineContent_append file.path file.content []
    rw [List.append_nil, firstLine_eq, if_neg List.not_mem_nil] at hlast
    rw [hcount, hlast]
    simpa using not_mem_lastLine file.content
  · obtain ⟨n, rfl⟩ := Int.eq_ofNat_of_zero_le hlow
    obtain ⟨place, hfound, -⟩ :=
      lineAndColumn_place file (show n ≤ file.content.length by omega)
    refine ⟨place, hfound, fun p => ?_⟩
    rw [← lineAndColumn_eq_ok_iff, hfound, Except.ok.injEq]
    exact eq_comm
  · refine ⟨_, lineAndColumn_offsetOf hplace, fun offset h => ?_⟩
    exact (lineAndColumn_eq_ok_iff.mp h).2.symm
  · obtain ⟨hplace, rfl⟩ := lineAndColumn_eq_ok_iff.mp h
    obtain ⟨hplace', rfl⟩ := lineAndColumn_eq_ok_iff.mp h'
    rw [Int.ofNat_lt]
    refine ⟨fun hlt => ?_, offsetOf_lt_offsetOf hplace hplace'⟩
    rcases before_or place place' with hbefore | rfl | hafter
    · exact hbefore
    · omega
    · have := offsetOf_lt_offsetOf hplace' hplace hafter
      omega

/-- A text with an empty line in the middle and one at its end: the beginning of
the one, the end of the text, and a place on the line between them. -/
theorem lines_and_offsets_empty_lines :
    let file : SourceFile :=
      { path := Text.ofString "a", content := Text.ofString "a\n\nbc\n" }
    file.lineCount = 4
      ∧ (∃ row, '\n' ∉ row ∧ file.lineContent 2 = row ++ ['\n'])
      ∧ file.lineAndColumn 2 = .ok (2, 0) ∧ file.lineAndColumn 6 = .ok (4, 0)
      ∧ (2 < (6 : Int) ↔ Before (2, 0) (4, 0))
      ∧ (∃ place, file.lineAndColumn 2 = .ok place
        ∧ ∀ p, file.IsPlace p ∧ (file.offsetOf p : Int) = 2 ↔ p = place)
      ∧ ∃! offset : Int, file.lineAndColumn offset = .ok (3, 2) := by
  intro file
  obtain ⟨hcount, -, hlines, -, -, hplaces, hoffsets, horder⟩ :=
    lines_and_offsets file
  have hplace : file.IsPlace (3, 2) :=
    ⟨by decide, by decide, by decide, by decide⟩
  exact ⟨hcount, hlines 2 (by decide) (by decide), rfl, rfl,
    horder 2 6 (2, 0) (4, 0) rfl rfl, hplaces 2 (by decide) (by decide),
    hoffsets (3, 2) hplace⟩

end DiagnosticConsole.SourceFile
