import DiagnosticConsole.Proofs.Terminal.Width
import Mathlib.Data.List.Infix
import Mathlib.Data.List.Induction

/-!
# Characters that take one cell

In a text that takes as many cells as it has characters, and so has each of its
beginnings, every character takes one cell where it stands. What that asks of a
character is said here without clusters (`TakesOneCell`): it is a tab or has one
cell of its own, or it is the emoji selector behind a character that it widens. The
one thing to beware of is a tab behind a mark that joins what comes after it. There
the machine forgets that a tab ends a cluster, so a mark behind that tab joins it,
and the cluster of the two takes no cell at all.

The proof reads a text character by character. As long as every character has
taken one cell, the last of them tells all that matters about the last cluster
(`Reading.Stands`): whether it is a lone tab, what a selector would widen, and
whether it could go on.
-/

namespace DiagnosticConsole

theorem Text.CodeRanges.exists_of_contains {ranges : Text.CodeRanges} {n : Nat}
    (h : ranges.contains n = true) : ∃ r ∈ ranges, r.1 ≤ n ∧ n ≤ r.2 := by
  induction ranges with
  | nil => cases h
  | cons r ranges ih =>
      rw [Text.CodeRanges.contains] at h
      split at h
      · cases h
      · split at h
        · exact ⟨r, List.mem_cons_self, by omega, by omega⟩
        · obtain ⟨r', hr', hbounds⟩ := ih h
          exact ⟨r', List.mem_cons_of_mem r hr', hbounds⟩

namespace Terminal

/-- A mark behind a tab that it joins, as the tab stands behind a mark that joins
what comes after it. -/
def JoinsTab (before : Text) (c : Char) : Prop :=
  before.getLast? = some '\t'
    ∧ before.dropLast.getLast?.map BreakClass.of = some .prepended
    ∧ ClusterState.joins (BreakClass.of c) = true

/-- A character takes one cell behind a text. -/
def TakesOneCell (before : Text) (c : Char) : Prop :=
  if c = selectorMark then
    before.getLast?.any (fun d => widenedBySelector.contains d.toNat) = true
  else c = '\t' ∨ cellsOf c = some 1 ∧ ¬ JoinsTab before c

instance (before : Text) (c : Char) : Decidable (JoinsTab before c) :=
  inferInstanceAs (Decidable (_ ∧ _ ∧ _))

instance (before : Text) (c : Char) : Decidable (TakesOneCell before c) :=
  inferInstanceAs (Decidable (ite (c = selectorMark) (_ = true)
    (c = '\t' ∨ cellsOf c = some 1 ∧ ¬ JoinsTab before c)))

/-! ## Single characters -/

theorem exists_cellsOf {c : Char} (h : Text.isPrintable c = true) :
    ∃ k, cellsOf c = some k := by
  have hcontrols : ∀ n < 0xA0, 1 ≤ n ∧ n ≤ 0x1F ∨ 0x7F ≤ n →
      Text.unprintable.contains n = true := by decide +kernel
  have hprintable : Text.unprintable.contains c.toNat = false := by
    simpa [Text.isPrintable] using h
  have hdrawn : ¬ (1 ≤ c.toNat ∧ c.toNat ≤ 0x1F
      ∨ 0x7F ≤ c.toNat ∧ c.toNat ≤ 0x9F) := by
    intro hcontrol
    rw [hcontrols c.toNat (by omega) (by omega)] at hprintable
    cases hprintable
  rw [cellsOf]
  simp only [if_neg hdrawn]
  split
  · exact ⟨1, rfl⟩
  · split
    · exact ⟨0, rfl⟩
    · split
      · exact ⟨2, rfl⟩
      · exact ⟨1, rfl⟩

/-- What a cluster always ends behind is a control, a line feed or a carriage
return. -/
theorem control_of_breakClass {c : Char} {b : BreakClass}
    (hb : BreakClass.of c = b)
    (h : b = .control ∨ b = .lineFeed ∨ b = .carriageReturn) :
    c.toNat = 0x0A ∨ c.toNat = 0x0D
      ∨ BreakTables.control.contains c.toNat = true := by
  rw [BreakClass.of] at hb
  split at hb
  · next hn => exact .inr (.inl hn)
  · split at hb
    · next hn => exact .inl hn
    · split at hb
      · simp [← hb] at h
      · split at hb
        · rw [BreakClass.ofSyllable] at hb
          split at hb <;> simp [← hb] at h
        · split at hb
          · next entry hentry =>
              have hmem := List.mem_of_find?_eq_some hentry
              have hcontains := List.find?_some hentry
              simp only [BreakClass.tables, List.mem_cons, List.not_mem_nil,
                or_false] at hmem
              rcases hmem with rfl | rfl | rfl | rfl | rfl | rfl | rfl | rfl | rfl
              case inr.inl => exact .inr (.inr hcontains)
              all_goals simp [← hb] at h
          · simp [← hb] at h

/-- A cluster goes on behind what a selector widens. -/
theorem not_control_of_widened {c : Char}
    (h : widenedBySelector.contains c.toNat = true) :
    ¬ (BreakClass.of c = .control ∨ BreakClass.of c = .lineFeed
      ∨ BreakClass.of c = .carriageReturn) := by
  have hapart : ∀ r ∈ widenedBySelector, ∀ q ∈ BreakTables.control,
      r.2 < q.1 ∨ q.2 < r.1 := by decide +kernel
  have hbreaks : ∀ n ∈ [0x0A, 0x0D], widenedBySelector.contains n = false := by
    decide +kernel
  intro hclass
  rcases control_of_breakClass rfl hclass with hn | hn | hcontrol
  · rw [hn, hbreaks 0x0A (by simp)] at h
    cases h
  · rw [hn, hbreaks 0x0D (by simp)] at h
    cases h
  · obtain ⟨r, hr, hbounds⟩ := Text.CodeRanges.exists_of_contains h
    obtain ⟨q, hq, hbounds'⟩ := Text.CodeRanges.exists_of_contains hcontrol
    have := hapart r hr q hq
    omega

theorem breakClass_tab : BreakClass.of '\t' = .control := by decide +kernel

theorem breakClass_selectorMark : BreakClass.of selectorMark = .extending := by
  decide +kernel

theorem cellsOf_selectorMark : cellsOf selectorMark = some 0 := by decide +kernel

theorem not_widened_selectorMark :
    widenedBySelector.contains selectorMark.toNat = false := by decide +kernel

theorem not_widened_tab :
    widenedBySelector.contains '\t'.toNat = false := by decide +kernel

theorem ne_joinerMark_of_isPrintable {c : Char} (h : Text.isPrintable c = true) :
    c ≠ joinerMark := by
  have hjoiner : Text.isPrintable joinerMark = false := by decide +kernel
  rintro rfl
  rw [hjoiner] at h
  cases h

theorem ClusterState.next_extending_fst (s : ClusterState) {b : BreakClass}
    (hb : ¬ (b = .control ∨ b = .lineFeed ∨ b = .carriageReturn)) :
    ((s.next b).2.next .extending).1 = false := by
  cases b with
  | control | lineFeed | carriageReturn => exact absurd (by simp) hb
  | other | extending | joiner | spacing | prepended | leading | vowel | trailing
  | openSyllable | closedSyllable | pictographic | regional => cases s <;> rfl

/-! ## Runs of characters -/

/-- What a character adds to the cells of a run, if the last character that a
selector would widen is known. -/
def added (measured : Option Char) (c : Char) : Option Nat :=
  if c = selectorMark then
    some (if measured.any (fun d => widenedBySelector.contains d.toNat) then 1
      else 0)
  else cellsOf c

/-- What a selector would widen behind one more character. -/
def measuredAfter (measured : Option Char) (c : Char) : Option Char :=
  if c = selectorMark then none
  else if cellsOf c = some 0 then measured
  else some c

/-- A run takes so many cells, whatever comes after it. -/
def Measures (run : Text) (n : Nat) (measured : Option Char) : Prop :=
  ∀ t, runCells none (run ++ t) = (runCells measured t).map (n + ·)

theorem runCells_cons {c : Char} (hc : c ≠ joinerMark) {measured : Option Char}
    {k : Nat} (hk : added measured c = some k) (t : Text) :
    runCells measured (c :: t)
      = (runCells (measuredAfter measured c) t).map (k + ·) := by
  rw [runCells.eq_def]
  simp only [if_neg hc]
  rw [added] at hk
  rw [measuredAfter]
  by_cases hselector : c = selectorMark
  · rw [if_pos hselector] at hk ⊢
    obtain rfl := Option.some.inj hk
    cases measured with
    | none => simp [hselector, cellsOf_selectorMark]
    | some d => simp [hselector, Nat.add_comm]
  · rw [if_neg hselector] at hk ⊢
    have hfalse : (c == selectorMark) = false := by simpa using hselector
    rw [hfalse, hk]
    cases k with
    | zero => simp
    | succ k => simp

theorem Measures.nil : Measures [] 0 none := by
  intro t
  simp

theorem Measures.concat {run : Text} {n k : Nat} {measured : Option Char}
    {c : Char} (h : Measures run n measured) (hc : c ≠ joinerMark)
    (hk : added measured c = some k) :
    Measures (run ++ [c]) (n + k) (measuredAfter measured c) := by
  intro t
  rw [List.append_assoc, h, List.singleton_append, runCells_cons hc hk,
    Option.map_map]
  congr 1
  funext m
  exact (Nat.add_assoc n k m).symm

theorem Measures.clusterCells_eq {run : Text} {n : Nat} {measured : Option Char}
    (h : Measures run n measured) : clusterCells run = n := by
  have hrun : runCells none run = some n := by
    have := h []
    rwa [List.append_nil] at this
  have htab : run ≠ ['\t'] := by
    rintro rfl
    have : runCells none ['\t'] = none := by decide +kernel
    rw [this] at hrun
    cases hrun
  rw [clusterCells, if_neg htab, hrun]
  rfl

theorem exists_added {c : Char} (h : Text.isPrintable c = true)
    (measured : Option Char) : ∃ k, added measured c = some k := by
  rw [added]
  split
  · exact ⟨_, rfl⟩
  · exact exists_cellsOf h

theorem added_none {c : Char} (hc : c ≠ selectorMark) (measured : Option Char) :
    added none c = added measured c := by
  rw [added, added, if_neg hc, if_neg hc]

/-- What a selector behind a text would widen: its last character, if that is not a
selector itself. -/
def lastMeasured (t : Text) : Option Char :=
  t.getLast?.bind fun c => if c = selectorMark then none else some c

theorem measuredAfter_of_one {c : Char} {measured : Option Char}
    (hc : added measured c = some 1) (measured' : Option Char) (t : Text) :
    measuredAfter measured' c = lastMeasured (t ++ [c]) := by
  rw [added] at hc
  rw [measuredAfter, lastMeasured, List.getLast?_concat, Option.bind_some]
  split
  · rfl
  · next hne =>
      rw [if_neg hne] at hc
      simp [hc]

theorem runCells_tab (t : Text) : runCells none ('\t' :: t) = none := by
  have hjoiner : '\t' ≠ joinerMark := by decide
  have hcells : cellsOf '\t' = none := rfl
  rw [runCells.eq_def]
  simp [hjoiner, hcells]

/-! ## Reading on while every character takes one cell -/

/-- Where a reading stands behind a text whose characters have all taken one
cell. -/
structure Reading.Stands (r : Reading) (t : Text) : Prop where
  prepended : r.state = .afterPrepended
    ↔ t.getLast?.map BreakClass.of = some .prepended
  /-- A tab is a cluster of its own, which can go on only behind a mark that joins
  what comes after it. -/
  tab : t.getLast? = some '\t' → r.current = ['\t']
    ∧ r.state = if t.dropLast.getLast?.map BreakClass.of = some .prepended
        then .plain else .afterControl
  measures : t.getLast? ≠ some '\t' →
    ∃ n, Measures r.current n (lastMeasured t)
  widened : ∀ d, t.getLast? = some d →
    widenedBySelector.contains d.toNat = true →
    (r.state.next .extending).1 = false

namespace Reading.Stands

theorem blank : Reading.blank.Stands [] where
  prepended := by simp [Reading.blank]
  tab h := by cases h
  measures _ := ⟨0, Measures.nil⟩
  widened d h := by cases h

variable {r : Reading} {t : Text} {c : Char}

/-- A character that begins a cluster adds to its cells what it adds to
nothing. -/
theorem measures_singleton {k : Nat} (hc : c ≠ joinerMark)
    (hk : added none c = some k) : Measures [c] k (measuredAfter none c) := by
  have h := Measures.nil.concat hc hk
  rwa [Nat.zero_add] at h

theorem cells_step_tab (r : Reading) : (r.step '\t').cells = r.cells + 1 := by
  have hbreak : (r.state.next (BreakClass.of '\t')).1 = true := by
    rw [breakClass_tab, ClusterState.next_control_fst]
  exact cells_step_of_break hbreak

/-- Behind a tab a character begins a cluster, or it joins the tab, and then the
cell of the tab is gone. -/
theorem cells_step_behind_tab (h : r.Stands t) (ht : t.getLast? = some '\t')
    {k : Nat} (hc : c ≠ joinerMark) (hk : added none c = some k) :
    (¬ JoinsTab t c ∧ (r.state.next (BreakClass.of c)).1 = true
        ∧ (r.step c).cells = r.cells + k)
      ∨ (JoinsTab t c ∧ (r.step c).cells + 1 = r.cells) := by
  obtain ⟨hcurrent, hstate⟩ := h.tab ht
  by_cases hjoins : JoinsTab t c
  · refine .inr ⟨hjoins, ?_⟩
    rw [if_pos hjoins.2.1] at hstate
    have hjoin : (r.state.next (BreakClass.of c)).1 = false := by
      rw [hstate, ClusterState.next_plain_fst, hjoins.2.2]
      rfl
    have hcells := cells_step_of_join hjoin
    have hnone : clusterCells ['\t', c] = 0 := by
      rw [clusterCells, if_neg (by simp), runCells_tab]
      rfl
    rw [hcurrent, List.singleton_append, hnone] at hcells
    exact hcells
  · have hbreak : (r.state.next (BreakClass.of c)).1 = true := by
      rw [hstate]
      split
      · next hprepended =>
          have hno : ClusterState.joins (BreakClass.of c) = false :=
            Bool.eq_false_iff.mpr fun hyes => hjoins ⟨ht, hprepended, hyes⟩
          rw [ClusterState.next_plain_fst, hno]
          rfl
      · rfl
    refine .inl ⟨hjoins, hbreak, ?_⟩
    rw [cells_step_of_break hbreak, (measures_singleton hc hk).clusterCells_eq]

/-- Behind any other character a character adds what it adds to the run, whether it
goes on with the cluster or begins another. -/
theorem cells_step_behind_other (h : r.Stands t) (ht : t.getLast? ≠ some '\t')
    {k : Nat} (hc : c ≠ joinerMark)
    (hk : added (lastMeasured t) c = some k) :
    (r.step c).cells = r.cells + k := by
  obtain ⟨n, hrun⟩ := h.measures ht
  cases hbreak : (r.state.next (BreakClass.of c)).1 with
  | false =>
      have hcells := cells_step_of_join hbreak
      rw [hrun.clusterCells_eq, (hrun.concat hc hk).clusterCells_eq] at hcells
      omega
  | true =>
      have hnone : added none c = some k := by
        by_cases hselector : c = selectorMark
        · -- a selector that widens does not begin a cluster
          rw [added, if_pos hselector] at hk ⊢
          rw [hselector, breakClass_selectorMark] at hbreak
          rw [← hk]
          cases hlast : t.getLast? with
          | none => simp [lastMeasured, hlast]
          | some d =>
              have hnot : widenedBySelector.contains d.toNat = false := by
                refine Bool.eq_false_iff.mpr fun hwide => ?_
                rw [h.widened d hlast hwide] at hbreak
                cases hbreak
              by_cases hd : d = selectorMark
              · simp [lastMeasured, hlast, hd]
              · simp [lastMeasured, hlast, hd, hnot]
        · rw [added_none hselector, hk]
      rw [cells_step_of_break hbreak,
        (measures_singleton hc hnone).clusterCells_eq]

/-! What a character adds is one cell just if it takes one. -/

theorem takesOneCell_iff_behind_tab (ht : t.getLast? = some '\t')
    (hc : c ≠ '\t') :
    TakesOneCell t c ↔ added none c = some 1 ∧ ¬ JoinsTab t c := by
  rw [added, TakesOneCell]
  by_cases hselector : c = selectorMark
  · rw [if_pos hselector, if_pos hselector, ht, Option.any_some, not_widened_tab]
    simp
  · rw [if_neg hselector, if_neg hselector]
    simp [hc]

theorem takesOneCell_iff_behind_other (ht : t.getLast? ≠ some '\t')
    (hc : c ≠ '\t') :
    TakesOneCell t c ↔ added (lastMeasured t) c = some 1 := by
  rw [added, TakesOneCell]
  by_cases hselector : c = selectorMark
  · rw [if_pos hselector, if_pos hselector]
    cases hlast : t.getLast? with
    | none => simp [lastMeasured, hlast]
    | some d =>
        by_cases hd : d = selectorMark
        · simp [lastMeasured, hlast, hd, not_widened_selectorMark]
        · simp [lastMeasured, hlast, hd]
  · have hjoins : ¬ JoinsTab t c := fun h => ht h.1
    rw [if_neg hselector, if_neg hselector]
    simp [hc, hjoins]

/-- One more character adds a cell just if it takes one. -/
theorem cells_step_iff (h : r.Stands t)
    (hc : c = '\t' ∨ Text.isPrintable c = true) :
    (r.step c).cells = r.cells + 1 ↔ TakesOneCell t c := by
  by_cases htab : c = '\t'
  · rw [htab]
    refine ⟨fun _ => ?_, fun _ => cells_step_tab r⟩
    rw [TakesOneCell, if_neg (by decide)]
    exact .inl rfl
  · have hprintable := hc.resolve_left htab
    have hjoiner := ne_joinerMark_of_isPrintable hprintable
    by_cases ht : t.getLast? = some '\t'
    · obtain ⟨k, hk⟩ := exists_added hprintable none
      rw [takesOneCell_iff_behind_tab ht htab, hk, Option.some.injEq]
      rcases h.cells_step_behind_tab ht hjoiner hk with
        ⟨hjoins, -, hcells⟩ | ⟨hjoins, hcells⟩
      · rw [hcells]
        simp [hjoins]
      · refine ⟨fun hone => ?_, fun hone => absurd hjoins hone.2⟩
        omega
    · obtain ⟨k, hk⟩ := exists_added hprintable (lastMeasured t)
      rw [takesOneCell_iff_behind_other ht htab,
        h.cells_step_behind_other ht hjoiner hk, hk, Option.some.injEq]
      omega

/-- Behind a character that has taken one cell a reading stands as before. -/
theorem step (h : r.Stands t) (hc : c = '\t' ∨ Text.isPrintable c = true)
    (hone : TakesOneCell t c) : (r.step c).Stands (t ++ [c]) where
  prepended := by
    rw [step_state, ClusterState.next_eq_afterPrepended_iff, List.getLast?_concat]
    simp
  tab hlast := by
    rw [List.getLast?_concat, Option.some.injEq] at hlast
    have hbreak : (r.state.next (BreakClass.of c)).1 = true := by
      rw [hlast, breakClass_tab, ClusterState.next_control_fst]
    rw [step_of_break hbreak, hlast, breakClass_tab, List.dropLast_concat]
    refine ⟨rfl, ?_⟩
    simp only [ClusterState.next_control_snd, h.prepended]
  measures hlast := by
    rw [List.getLast?_concat, ne_eq, Option.some.injEq] at hlast
    have hprintable := hc.resolve_left hlast
    have hjoiner := ne_joinerMark_of_isPrintable hprintable
    by_cases ht : t.getLast? = some '\t'
    · obtain ⟨hk, hjoins⟩ := (takesOneCell_iff_behind_tab ht hlast).mp hone
      have hbreak : (r.state.next (BreakClass.of c)).1 = true := by
        rcases h.cells_step_behind_tab ht hjoiner hk with ⟨-, hbreak, -⟩ | ⟨h', -⟩
        · exact hbreak
        · exact absurd h' hjoins
      rw [step_of_break hbreak, ← measuredAfter_of_one hk none]
      exact ⟨1, measures_singleton hjoiner hk⟩
    · have hk := (takesOneCell_iff_behind_other ht hlast).mp hone
      cases hbreak : (r.state.next (BreakClass.of c)).1 with
      | true =>
          obtain ⟨k, hnone⟩ := exists_added hprintable none
          rw [step_of_break hbreak, ← measuredAfter_of_one hk none]
          exact ⟨k, measures_singleton hjoiner hnone⟩
      | false =>
          obtain ⟨n, hrun⟩ := h.measures ht
          rw [step_of_join hbreak, ← measuredAfter_of_one hk (lastMeasured t)]
          exact ⟨n + 1, hrun.concat hjoiner hk⟩
  widened d hd hwidened := by
    rw [List.getLast?_concat] at hd
    obtain rfl := Option.some.inj hd
    rw [step_state]
    exact ClusterState.next_extending_fst _ (not_control_of_widened hwidened)

/-- So it stands behind a text all of whose characters take one cell. -/
theorem append {s : Text} (h : (read t).Stands t)
    (hs : ∀ c ∈ s, c = '\t' ∨ Text.isPrintable c = true)
    (hone : ∀ u c, u ++ [c] <+: s → TakesOneCell (t ++ u) c) :
    (read (t ++ s)).Stands (t ++ s) := by
  induction s using List.reverseRecOn with
  | nil => rwa [List.append_nil]
  | append_singleton s c ih =>
      have hbefore := ih (fun d hd => hs d (List.mem_append_left _ hd))
        fun u d hu => hone u d (hu.trans (List.prefix_append s [c]))
      rw [← List.append_assoc, read_concat]
      exact hbefore.step (hs c (by simp)) (hone s c (List.prefix_refl _))

end Reading.Stands

/-- If a text takes as many cells as it has characters, it goes on doing so just as
long as every further character takes one cell. -/
theorem clusterSum_append_iff {t s : Text} (h : (Reading.read t).Stands t)
    (ht : clusterSum t = t.length)
    (hs : ∀ c ∈ s, c = '\t' ∨ Text.isPrintable c = true) :
    (∀ u, u <+: s → clusterSum (t ++ u) = t.length + u.length)
      ↔ ∀ u c, u ++ [c] <+: s → TakesOneCell (t ++ u) c := by
  induction s using List.reverseRecOn with
  | nil => simp [ht]
  | append_singleton s c ih =>
      have hs' : ∀ d ∈ s, d = '\t' ∨ Text.isPrintable d = true :=
        fun d hd => hs d (List.mem_append_left _ hd)
      have hcells : (∀ u, u <+: s ++ [c] → clusterSum (t ++ u) = t.length + u.length)
          ↔ (∀ u, u <+: s → clusterSum (t ++ u) = t.length + u.length)
            ∧ clusterSum (t ++ (s ++ [c])) = t.length + (s ++ [c]).length := by
        simp only [List.prefix_concat_iff, or_imp, forall_and, forall_eq]
        exact and_comm
      have hones : (∀ u d, u ++ [d] <+: s ++ [c] → TakesOneCell (t ++ u) d)
          ↔ (∀ u d, u ++ [d] <+: s → TakesOneCell (t ++ u) d)
            ∧ TakesOneCell (t ++ s) c := by
        simp only [List.prefix_concat_iff, List.append_singleton_inj, or_imp,
          forall_and, and_imp, forall_eq_apply_imp_iff, forall_eq]
        exact and_comm
      rw [hcells, hones, ih hs']
      refine and_congr_right fun hone => ?_
      have hstands := h.append hs' hone
      have hsum := (ih hs').mpr hone s (List.prefix_refl s)
      rw [← hstands.cells_step_iff (hs c (by simp)), ← Reading.read_concat,
        ← Reading.clusterSum_eq, ← Reading.clusterSum_eq, hsum, List.append_assoc,
        List.length_append, List.length_singleton, Nat.add_assoc]

end Terminal

end DiagnosticConsole
