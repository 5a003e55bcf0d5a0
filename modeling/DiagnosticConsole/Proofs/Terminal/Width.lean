import DiagnosticConsole.Proofs.Terminal.Cluster
import DiagnosticConsole.Proofs.Terminal.Stripping

/-!
# The width of a text

Printable ASCII takes a cell a character, and the machine that finds clusters
comes to the same: after such a character it is in its plain state, where the next
one ends the cluster, so each of them is a cluster of its own
(`clusters_of_isPrintableAscii`). It makes no difference then which way a text is
measured (`width_eq_clusterSum`), and whatever a text ends in, once a blank has closed
it every dash behind it takes one more cell (`width_append_dashes`).

Before anything is measured, sequences are taken out. A sequence ends in a final
character, so what has none ends no sequence that began before it, and dashes are
left as they are even behind half a sequence. Colours are taken out whole, so a
painted text is as wide as the text.
-/

namespace DiagnosticConsole

namespace Escape

theorem control_takesColors : control.TakesColors :=
  ⟨rfl, fun c hc => by simp [control, hc], rfl, by decide, by decide⟩

theorem stripAll_plain {t : Text} (ht : esc ∉ t) : stripAll t = t := by
  have hforms : ∀ form ∈ [control, hyperlink],
      form.introducer.head? = some esc := by
    intro form hform
    rcases List.mem_pair.mp hform with rfl | rfl <;> rfl
  have h := remove_plain_append hforms ht []
  rwa [List.append_nil, show remove [control, hyperlink] [] = [] from rfl,
    List.append_nil] at h

/-- What has neither an escape character nor a final one is drawn, whatever it
stands behind. -/
theorem stripAll_append {b : Text} (hesc : esc ∉ b)
    (hb : ∀ c ∈ b, c.isAlpha = false ∧ c ≠ bell) (a : Text) :
    stripAll (a ++ b) = stripAll a ++ b := by
  have hapart : ∀ form ∈ [control, hyperlink], form.Apart a b := by
    intro form hform
    rcases List.mem_pair.mp hform with rfl | rfl
    · exact Form.apart_of_final (fun c hc => (hb c hc).1) a
    · exact Form.apart_of_final (fun c hc => by simp [hyperlink, (hb c hc).2]) a
  have h := remove_append hapart
  rw [show remove [control, hyperlink] b = b from stripAll_plain hesc] at h
  exact h

/-- A painted text is drawn as the text is. -/
theorem stripAll_paint (palette : Palette) (color : Color) (t : Text) :
    stripAll (palette.paint color t) = stripAll t := by
  refine control_takesColors.remove_paint_of_apart (fun other hother t => ?_)
    palette color t
  rw [List.mem_singleton.mp hother]
  have hbell : bell ∉ Color.off := by decide
  refine Form.apart_of_final (fun c hc => decide_eq_false ?_) t
  rintro rfl
  exact hbell hc

end Escape

namespace Terminal

theorem isPrintable_of_isPrintableAscii {c : Char}
    (h : isPrintableAscii c = true) : Text.isPrintable c = true := by
  rw [isPrintableAscii, Bool.and_eq_true] at h
  exact h.2

theorem isPrintableAscii_iff {c : Char} :
    isPrintableAscii c = true ↔ 0x20 ≤ c.toNat ∧ c.toNat ≤ 0x7E := by
  have hprintable : ∀ n < 0x80,
      (Text.unprintable.contains n = false ↔ 0x20 ≤ n ∧ n ≤ 0x7E) := by
    decide +kernel
  rw [isPrintableAscii, Bool.and_eq_true, decide_eq_true_eq, Text.isPrintable,
    Bool.not_eq_true']
  constructor
  · exact fun h => (hprintable c.toNat h.1).mp h.2
  · intro h
    have hlt : c.toNat < 0x80 := by omega
    exact ⟨hlt, (hprintable c.toNat hlt).mpr h⟩

theorem breakClass_of_isPrintableAscii {c : Char}
    (h : isPrintableAscii c = true) : BreakClass.of c = .other := by
  have hnone : ∀ n < 0x7F, 0x20 ≤ n →
      (BreakClass.tables.find? fun entry => entry.2.contains n) = none := by
    decide +kernel
  have hbounds := isPrintableAscii_iff.mp h
  rw [BreakClass.of, if_neg (by omega), if_neg (by omega), if_neg (by omega),
    if_neg (by omega), hnone c.toNat (by omega) hbounds.1]

theorem clusterCells_of_isPrintableAscii {c : Char}
    (h : isPrintableAscii c = true) : clusterCells [c] = 1 := by
  have hbounds := isPrintableAscii_iff.mp h
  have hne : ∀ d : Char, d.toNat < 0x20 ∨ 0x7E < d.toNat → c ≠ d := by
    rintro d hd rfl
    omega
  have htab : c ≠ '\t' := hne _ (by decide)
  have hjoiner : c ≠ joinerMark := hne _ (by decide)
  have hselector : c ≠ selectorMark := hne _ (by decide)
  simp [clusterCells, runCells, htab, hjoiner, hselector, cellsOf, hbounds]

/-- Clusters of one printable ASCII character each take a cell a character. -/
theorem cells_of_isPrintableAscii {t : Text}
    (h : ∀ c ∈ t, isPrintableAscii c = true) :
    ((t.map fun c => [c]).map clusterCells).foldr (· + ·) 0 = t.length := by
  induction t with
  | nil => rfl
  | cons c t ih =>
      rw [List.forall_mem_cons] at h
      rw [List.map_cons, List.map_cons, List.foldr_cons, ih h.2,
        clusterCells_of_isPrintableAscii h.1, List.length_cons, Nat.add_comm]

namespace Reading

/-- Behind a printable ASCII character the machine is in its plain state. -/
theorem state_step_of_isPrintableAscii {c : Char}
    (h : isPrintableAscii c = true) (r : Reading) : (r.step c).state = .plain := by
  rw [step_state, breakClass_of_isPrintableAscii h, ClusterState.next_other_snd]

/-- From the plain state on, printable ASCII has a cluster for each character. -/
theorem clusters_foldl_step_of_isPrintableAscii {r : Reading} {t : Text}
    (hr : r.state = .plain) (ht : ∀ c ∈ t, isPrintableAscii c = true) :
    (t.foldl step r).clusters = r.clusters ++ t.map fun c => [c] := by
  induction t generalizing r with
  | nil => exact (List.append_nil _).symm
  | cons c t ih =>
      rw [List.forall_mem_cons] at ht
      have hbreak : (r.state.next (BreakClass.of c)).1 = true := by
        rw [hr, breakClass_of_isPrintableAscii ht.1]
        rfl
      rw [List.foldl_cons, ih (state_step_of_isPrintableAscii ht.1 r) ht.2,
        clusters_step_of_break hbreak, List.append_assoc, List.singleton_append,
        List.map_cons]

theorem cells_foldl_step_of_isPrintableAscii {r : Reading} {t : Text}
    (hr : r.state = .plain) (ht : ∀ c ∈ t, isPrintableAscii c = true) :
    (t.foldl step r).cells = r.cells + t.length := by
  rw [cells, clusters_foldl_step_of_isPrintableAscii hr ht, List.map_append,
    foldr_add_append, cells_of_isPrintableAscii ht, ← cells]

end Reading

/-- Behind a printable ASCII character, printable ASCII takes a cell a character,
whatever comes before. -/
theorem clusterSum_append {d : Char} {t : Text} (hd : isPrintableAscii d = true)
    (ht : ∀ c ∈ t, isPrintableAscii c = true) (s : Text) :
    clusterSum (s ++ [d] ++ t) = clusterSum (s ++ [d]) + t.length := by
  have hplain : (Reading.read (s ++ [d])).state = .plain := by
    rw [Reading.read_concat, Reading.state_step_of_isPrintableAscii hd]
  rw [Reading.clusterSum_eq, Reading.clusterSum_eq,
    ← Reading.cells_foldl_step_of_isPrintableAscii hplain ht, Reading.read,
    Reading.read, List.foldl_append]

/-- Printable ASCII has a cluster for each character. -/
theorem clusters_of_isPrintableAscii {t : Text}
    (h : ∀ c ∈ t, isPrintableAscii c = true) :
    clusters t = t.map fun c => [c] := by
  cases t with
  | nil => rfl
  | cons c t =>
      rw [List.forall_mem_cons] at h
      have hbreak : (Reading.blank.state.next (BreakClass.of c)).1 = true := rfl
      have hread := Reading.clusters_read (c :: t)
      rw [Reading.read, List.foldl_cons,
        Reading.clusters_foldl_step_of_isPrintableAscii
          (Reading.state_step_of_isPrintableAscii h.1 _) h.2,
        Reading.clusters_step_of_break hbreak] at hread
      exact (List.cons.inj hread).2.symm

theorem clusterSum_of_isPrintableAscii {t : Text}
    (h : ∀ c ∈ t, isPrintableAscii c = true) : clusterSum t = t.length := by
  rw [clusterSum, clusters_of_isPrintableAscii h, cells_of_isPrintableAscii h]

/-- However it is measured, a text is as wide as the clusters of what is drawn of
it. -/
theorem width_eq_clusterSum (t : Text) :
    width t = clusterSum (Escape.stripAll t) := by
  rw [width]
  split
  · next h =>
      rw [clusterSum_of_isPrintableAscii (List.all_eq_true.mp h)]
  · rfl

theorem width_paint (palette : Palette) (color : Color) (t : Text) :
    width (palette.paint color t) = width t := by
  rw [width, width, Escape.stripAll_paint]

/-- Painting changes neither what is drawn of a text nor the cells it takes. -/
theorem paint_keeps_width (palette : Palette) (color : Color) (t : Text) :
    Escape.stripAll (palette.paint color t) = Escape.stripAll t
      ∧ width (palette.paint color t) = width t :=
  ⟨Escape.stripAll_paint palette color t, width_paint palette color t⟩

/-- A text that ends in a hyperlink without its bell, with half a control sequence in
it. -/
example :
    let t := Text.ofString "a\x1b]8;;b\x1b[3"
    let painted := ({} : Palette).paint .red t
    painted ≠ t ∧ Escape.stripAll painted = t ∧ width painted = 8 := by
  decide +kernel

/-- Printable ASCII is measured alike both ways: its length is what its clusters take
together, as each of its characters is a cluster and each cluster takes one cell. -/
theorem ascii_measured_alike {t : Text}
    (h : ∀ c ∈ Escape.stripAll t, 0x20 ≤ c.toNat ∧ c.toNat ≤ 0x7E) :
    let drawn := Escape.stripAll t
    drawn.all isPrintableAscii = true
      ∧ clusters drawn = drawn.map (fun c => [c])
      ∧ (∀ cluster ∈ clusters drawn, clusterCells cluster = 1)
      ∧ clusterSum drawn = drawn.length
      ∧ width t = clusterSum drawn := by
  intro drawn
  have hascii : ∀ c ∈ drawn, isPrintableAscii c = true :=
    fun c hc => isPrintableAscii_iff.mpr (h c hc)
  have hclusters := clusters_of_isPrintableAscii hascii
  refine ⟨List.all_eq_true.mpr hascii, hclusters, ?_,
    clusterSum_of_isPrintableAscii hascii, width_eq_clusterSum t⟩
  rw [hclusters, List.forall_mem_map]
  exact fun c hc => clusterCells_of_isPrintableAscii (hascii c hc)

/-- A text in bold with a hyperlink whose target is no ASCII. -/
theorem ascii_measured_alike_linked :
    let t := Text.ofString "\x1b[1ma b\x1b]8;;é\x07~\x1b]8;;\x07\x1b[0m"
    (∀ c ∈ Escape.stripAll t, 0x20 ≤ c.toNat ∧ c.toNat ≤ 0x7E)
      ∧ clusters (Escape.stripAll t) = [['a'], [' '], ['b'], ['~']]
      ∧ clusterSum (Escape.stripAll t) = 4
      ∧ width t = 4 := by
  intro t
  have hdrawn : Escape.stripAll t = ['a', ' ', 'b', '~'] := by decide +kernel
  have hbounds : (Escape.stripAll t).all
      (fun c => 0x20 ≤ c.toNat ∧ c.toNat ≤ 0x7E) = true := by
    rw [hdrawn]
    decide
  have hascii : ∀ c ∈ Escape.stripAll t, 0x20 ≤ c.toNat ∧ c.toNat ≤ 0x7E :=
    fun c hc => of_decide_eq_true (List.all_eq_true.mp hbounds c hc)
  obtain ⟨-, hclusters, -, hsum, hwidth⟩ := ascii_measured_alike hascii
  rw [hsum] at hwidth
  rw [hdrawn] at hascii hclusters hsum hwidth ⊢
  exact ⟨hascii, hclusters, hsum, hwidth⟩

/-- Dashes behind a blank take a cell each. -/
theorem width_append_dashes (t : Text) (n : Nat) :
    width (t ++ [' '] ++ List.replicate n '-') = width (t ++ [' ']) + n := by
  have hdash : ∀ c ∈ List.replicate n '-', c = '-' :=
    fun c hc => List.eq_of_mem_replicate hc
  have hrule : Escape.stripAll (t ++ [' '] ++ List.replicate n '-')
      = Escape.stripAll (t ++ [' ']) ++ List.replicate n '-' := by
    refine Escape.stripAll_append (fun h => ?_) (fun c hc => ?_) _
    · exact absurd (hdash _ h) (by decide)
    · rw [hdash c hc]
      decide
  have hblank : Escape.stripAll (t ++ [' ']) = Escape.stripAll t ++ [' '] :=
    Escape.stripAll_append (by decide) (by simp [Escape.bell]) t
  rw [width_eq_clusterSum, width_eq_clusterSum, hrule, hblank,
    clusterSum_append (by decide +kernel) (fun c hc => ?_),
    List.length_replicate]
  rw [hdash c hc]
  decide +kernel

end Terminal

end DiagnosticConsole
