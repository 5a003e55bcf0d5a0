import DiagnosticConsole.Diagnostic.Extent

/-!
# What can be drawn

A drawing that is made is the drawing itself: what is looked at first is only
whether its runs can be drawn. A run can be if its length is at most `Extent.longest`,
which is the last index or what there is room for, whichever is less.

For a diagnostic this comes down to three numbers. The rules are no longer than
the page is wide, and the lines of the message are moved no further than the
margin of the carets; so the page width, that margin and the number of carets are
all that there is to ask about (`Renderer.render?_eq_ok`).
-/

namespace DiagnosticConsole.Extent

/-- The longest run that can be drawn: its length is an index, and there is room for
it. -/
def longest (room : Nat) : Int := min room (pastIndexes - 1)

theorem longest_nonneg (room : Nat) : 0 ≤ longest room := by
  have hindexes : 0 < pastIndexes := by decide
  rw [longest]
  omega

variable {room : Nat}

theorem drawn_eq_ok_iff {α : Type} {lengths : List Int} {drawing x : α} :
    drawn room lengths drawing = .ok x
      ↔ checkAll room lengths = .ok () ∧ drawing = x := by
  rw [drawn]
  cases checkAll room lengths with
  | ok _ => simp
  | error fault => simp

theorem drawn_eq_error_iff {α : Type} {lengths : List Int} {drawing : α}
    {fault : ExtentFault} :
    drawn room lengths drawing = .error fault
      ↔ checkAll room lengths = .error fault := by
  rw [drawn]
  cases checkAll room lengths with
  | ok _ => simp
  | error fault => simp

theorem check_of_nonneg {n : Int} (h : 0 ≤ n) :
    check room n
      = if pastIndexes ≤ n then .error .beyondIndex
        else if room < n then .error .beyondMemory
        else .ok () := by
  have hindexes : 0 ≤ pastIndexes := by decide
  have hpast : (n < -pastIndexes ∨ pastIndexes ≤ n)
      ↔ pastIndexes ≤ n := by omega
  rw [check]
  simp only [hpast]

theorem check_eq_ok_iff {n : Int} (h : 0 ≤ n) :
    check room n = .ok () ↔ n ≤ longest room := by
  rw [check_of_nonneg h, longest]
  split
  · next hindex => exact iff_of_false nofun (by omega)
  · split
    · next hmemory => exact iff_of_false nofun (by omega)
    · exact iff_of_true rfl (by omega)

theorem checkAll_eq_ok {lengths : List Int}
    (h : ∀ n ∈ lengths, 0 ≤ n ∧ n ≤ longest room) :
    checkAll room lengths = .ok () := by
  induction lengths with
  | nil => rfl
  | cons n rest ih =>
      obtain ⟨hpos, hmax⟩ := h n List.mem_cons_self
      rw [checkAll, (check_eq_ok_iff hpos).mpr hmax]
      exact ih fun m hm => h m (List.mem_cons_of_mem n hm)

/-- A drawing with one run is made unless that run is too long. -/
theorem drawn_singleton {α : Type} {n : Int} (h : 0 ≤ n) (drawing : α) :
    drawn room [n] drawing
      = if pastIndexes ≤ n then .error .beyondIndex
        else if room < n then .error .beyondMemory
        else .ok drawing := by
  rw [drawn, checkAll, check_of_nonneg h]
  by_cases hindex : pastIndexes ≤ n
  · rw [if_pos hindex, if_pos hindex]
  · rw [if_neg hindex, if_neg hindex]
    by_cases hmemory : room < n
    · rw [if_pos hmemory, if_pos hmemory]
    · rw [if_neg hmemory, if_neg hmemory]
      rfl

end DiagnosticConsole.Extent

namespace DiagnosticConsole.Renderer

/-- A diagnostic that can be drawn is the one that is rendered. -/
theorem eq_render_of_render? {r : Renderer} {message : Message}
    {position : Option Position} {kind : Option Text} {pageWidth : Option Int}
    {block : Block}
    (h : r.render? message position kind pageWidth = .ok block) :
    block = r.render message position kind pageWidth :=
  (Extent.drawn_eq_ok_iff.mp h).2.symm

theorem headerRuns_le (kind : Text) (position : Option Position) {width bound : Int}
    (hbound : 0 ≤ bound) (h : width ≤ bound) :
    ∀ n ∈ headerRuns kind width position, 0 ≤ n ∧ n ≤ bound := by
  have hrule : ∀ file, 0 ≤ ruleLength kind file width
      ∧ ruleLength kind file width ≤ bound := by
    intro file
    rw [ruleLength]
    omega
  intro n hn
  cases position with
  | none =>
      rw [headerRuns, List.mem_singleton] at hn
      rw [hn]
      exact hrule none
  | some p =>
      rw [headerRuns, List.mem_append, List.mem_flatMap, List.mem_singleton]
        at hn
      rcases hn with ⟨q, -, hn⟩ | rfl
      · rw [inlinedRuns, List.mem_cons, List.mem_singleton] at hn
        rcases hn with rfl | rfl
        · exact hrule _
        · omega
      · exact hrule _

theorem le_least_iff {a n : Int} {rest : List Int} :
    a ≤ least n rest ↔ a ≤ n ∧ ∀ m ∈ rest, a ≤ m := by
  induction rest generalizing n with
  | nil => simp [least]
  | cons m rest ih =>
      rw [least, ih, Int.le_min, List.forall_mem_cons, and_assoc]

/-- The padding of a message is the least that one of its lines allows. -/
theorem le_padding_iff {p : Position} {offset pageWidth a : Int} {line : Text}
    {rest : List Text} :
    a ≤ padding p offset pageWidth line rest
      ↔ ∀ t ∈ line :: rest, a ≤ paddingOf p offset pageWidth t := by
  rw [padding, le_least_iff, List.forall_mem_map, List.forall_mem_cons]

theorem padding_le {p : Position} {offset pageWidth : Int} {line t : Text}
    {rest : List Text} (ht : t ∈ line :: rest) :
    padding p offset pageWidth line rest ≤ paddingOf p offset pageWidth t :=
  le_padding_iff.mp (Int.le_refl _) t ht

/-- The lines of a message are moved at most up to the first caret. -/
theorem padding_bounds (p : Position) {offset : Int} (hoffset : 0 ≤ offset)
    (pageWidth : Int) (line : Text) (rest : List Text) :
    0 ≤ padding p offset pageWidth line rest
      ∧ padding p offset pageWidth line rest ≤ offset + p.span.startColumn := by
  constructor
  · refine le_padding_iff.mpr fun t _ => ?_
    rw [paddingOf]
    omega
  · exact Int.le_trans (padding_le List.mem_cons_self) (Int.min_le_right _ _)

theorem markerRuns_le {p : Position} {offset bound : Int} (hoffset : 0 ≤ offset)
    (hmargin : offset + p.span.startColumn ≤ bound) (hcarets : caretCount p ≤ bound) :
    ∀ n ∈ markerRuns p offset, 0 ≤ n ∧ n ≤ bound := by
  have hpos : 1 ≤ caretCount p := Int.le_max_left _ _
  intro n hn
  rw [markerRuns] at hn
  split at hn
  · rw [List.mem_cons, List.mem_singleton] at hn
    omega
  · rw [List.mem_singleton] at hn
    omega

/-- A diagnostic on a page that is not too wide can be drawn if its carets and
their margin can. -/
theorem render?_eq_ok (r : Renderer) (message : Message)
    (position : Option Position) (kind : Option Text) (pageWidth : Option Int)
    (hwidth : pageWidth.getD r.pageWidth ≤ Extent.longest r.room)
    (hmarker : ∀ p, position = some p →
      ((lineLabel p).length : Int) + p.span.startColumn ≤ Extent.longest r.room
        ∧ caretCount p ≤ Extent.longest r.room) :
    r.render? message position kind pageWidth
      = .ok (r.render message position kind pageWidth) := by
  refine Extent.drawn_eq_ok_iff.mpr ⟨Extent.checkAll_eq_ok ?_, rfl⟩
  intro n hn
  rcases List.mem_append.mp hn with hn | hn
  · exact headerRuns_le _ position (Extent.longest_nonneg _) hwidth n hn
  · cases position with
    | none => cases hn
    | some p =>
        obtain ⟨hmargin, hcarets⟩ := hmarker p rfl
        have hoffset : (0 : Int) ≤ (lineLabel p).length := Int.natCast_nonneg _
        rcases List.mem_append.mp hn with hn | hn
        · exact markerRuns_le hoffset hmargin hcarets n hn
        · cases hlines : Text.lineContents message.text with
          | nil =>
              rw [hlines] at hn
              cases hn
          | cons line rest =>
              rw [hlines, messageRuns, List.mem_singleton] at hn
              have hbounds := padding_bounds p hoffset
                (pageWidth.getD r.pageWidth) line rest
              rw [hn]
              exact ⟨hbounds.1, Int.le_trans hbounds.2 hmargin⟩

end DiagnosticConsole.Renderer
