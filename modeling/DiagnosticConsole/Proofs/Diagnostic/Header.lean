import DiagnosticConsole.Proofs.Diagnostic.Extent
import DiagnosticConsole.Proofs.Source.Chain

/-!
# A header tells a chain

The header of a position has its own line last and, above it, three lines for
each further position of its chain, the farthest first. Where a line of the
header comes from is a matter of counting: pieces of three lines, put together in
the order opposite to the chain's (`getElem?_flatMap`).

What the chain is comes from the walk along the links and does not depend on the
graph being free of circles; `header_tells_chain` puts the two together.
-/

namespace DiagnosticConsole

/-- Where pieces that all have as many lines have a line. -/
theorem getElem?_flatMap {α β : Type} {pieces : α → List β} {n : Nat}
    (hlength : ∀ x, (pieces x).length = n) (l : List α) (k : Nat) {r : Nat}
    (hr : r < n) :
    (l.flatMap pieces)[n * k + r]? = l[k]?.bind fun x => (pieces x)[r]? := by
  induction l generalizing k with
  | nil => rfl
  | cons x rest ih =>
      rw [List.flatMap_cons]
      cases k with
      | zero =>
          rw [Nat.mul_zero, Nat.zero_add,
            List.getElem?_append_left (by rw [hlength]; exact hr)]
          rfl
      | succ k =>
          have hindex : n * (k + 1) + r = (pieces x).length + (n * k + r) := by
            rw [hlength, Nat.mul_succ]
            omega
          rw [hindex, List.getElem?_append_right (Nat.le_add_right _ _),
            Nat.add_sub_cancel_left, ih, List.getElem?_cons_succ]

theorem length_flatMap {α β : Type} {pieces : α → List β} {n : Nat}
    (hlength : ∀ x, (pieces x).length = n) (l : List α) :
    (l.flatMap pieces).length = n * l.length := by
  induction l with
  | nil => rfl
  | cons x rest ih =>
      rw [List.flatMap_cons, List.length_append, hlength, ih, List.length_cons,
        Nat.mul_succ, Nat.add_comm]

namespace Renderer

variable (r : Renderer) (p : Position) (kind : Text) (pageWidth : Option Int)

/-- The lines of a header are those that a chain calls for: three for each
position that the one before it was inlined at, the farthest first, and one for
the position itself. -/
structure TellsChain (width : Int) (lines : List Text) : Prop where
  length : lines.length = 3 * (p.chain.length - 1) + 1
  inlined : ∀ k, k + 1 < p.chain.length →
    ∃ q, p.outward (p.chain.length - 1 - k) = some q
      ∧ lines[3 * k]? = some (r.palette.paint .blue
        (headerLine kind (some q.file) width))
      ∧ lines[3 * k + 1]? = some (r.palette.paint .blue
        (Text.ofString "This location is in code that was inlined at "
          ++ q.label ++ [':']))
      ∧ lines[3 * k + 2]? = some (r.palette.paint .blue
        (List.replicate width.toNat '-'))
  own : lines[3 * (p.chain.length - 1)]? = some (r.palette.paint .blue
    (headerLine kind (some p.file) width))

theorem length_inlinedAt (width : Int) (q : Position) :
    (inlinedAt kind width q).length = 3 := rfl

theorem length_above (width : Int) :
    ((p.chain.drop 1).reverse.flatMap (inlinedAt kind width)).length
      = 3 * (p.chain.length - 1) := by
  rw [length_flatMap (length_inlinedAt kind width), List.length_reverse,
    List.length_drop]

/-- The positions after the first of a chain, the farthest first. -/
theorem getElem?_reverse_drop_chain {k : Nat} (h : k + 1 < p.chain.length) :
    (p.chain.drop 1).reverse[k]? = p.outward (p.chain.length - 1 - k) := by
  have hk : k < (p.chain.drop 1).length := by
    rw [List.length_drop]
    omega
  -- The first of the chain is left out, so numbers from behind are the same.
  have hindex : 1 + ((p.chain.drop 1).length - 1 - k)
      = p.chain.length - 1 - k := by
    rw [List.length_drop]
    omega
  rw [List.getElem?_reverse hk, List.getElem?_drop, hindex,
    Position.getElem?_chain (by omega)]

theorem getElem?_headerLines {width : Int} {k i : Nat}
    (hk : k + 1 < p.chain.length) (hi : i < 3) :
    (headerLines kind width (some p))[3 * k + i]?
      = (p.outward (p.chain.length - 1 - k)).bind fun q =>
          (inlinedAt kind width q)[i]? := by
  have hline : 3 * k + i < ((p.chain.drop 1).reverse.flatMap
      (inlinedAt kind width)).length := by
    rw [length_above]
    omega
  rw [headerLines, List.getElem?_append_left hline,
    getElem?_flatMap (length_inlinedAt kind width) _ _ hi,
    getElem?_reverse_drop_chain p hk]

theorem header_tellsChain :
    TellsChain r p kind (pageWidth.getD r.pageWidth)
      (r.header (some p) kind pageWidth) := by
  rw [header]
  generalize pageWidth.getD r.pageWidth = width
  refine ⟨?_, fun k hk => ?_, ?_⟩
  · rw [List.length_map, headerLines, List.length_append, length_above]
    rfl
  · obtain ⟨q, hq⟩ : ∃ q, p.outward (p.chain.length - 1 - k) = some q := by
      rw [← Position.getElem?_chain (by omega)]
      exact ⟨_, List.getElem?_eq_getElem (by omega)⟩
    have hline : ∀ i < 3,
        ((headerLines kind width (some p)).map
          (r.palette.paint .blue))[3 * k + i]?
          = (inlinedAt kind width q)[i]?.map (r.palette.paint .blue) := by
      intro i hi
      rw [List.getElem?_map, getElem?_headerLines p kind hk hi, hq]
      rfl
    exact ⟨q, hq, hline 0 (by decide), hline 1 (by decide),
      hline 2 (by decide)⟩
  · rw [List.getElem?_map, headerLines, ← length_above p kind width,
      List.getElem?_concat_length]
    rfl

/-- The chain of a position is what the links lead to, before they end, come back
to a position that it has, or have led to 64 positions; so it has all positions
that can be reached, each of them once, or 64 of them, and tells them apart also
if they agree. The header has the lines that the chain calls for, and it can be
drawn unless the page is wider than any run. -/
theorem header_tells_chain :
    let width := pageWidth.getD r.pageWidth
    (∀ k q, p.chain[k]? = some q
      ↔ k < 64 ∧ p.outward k = some q ∧ Position.Distinct p.outward k)
    ∧ p.chain.Nodup
    ∧ (∀ q q', q ≠ q' → q.agrees q' = true →
      (∃ k < 64, p.outward k = some q) → (∃ k < 64, p.outward k = some q') →
      q ∈ p.chain ∧ q' ∈ p.chain)
    ∧ p.chain.length = min 64 {q | p.Reaches q}.ncard
    ∧ r.TellsChain p kind width (r.header (some p) kind pageWidth)
    ∧ (∀ lines, r.header? (some p) kind pageWidth = .ok lines →
      r.TellsChain p kind width lines)
    ∧ (width ≤ Extent.longest r.room →
      ∃ lines, r.header? (some p) kind pageWidth = .ok lines) := by
  intro width
  have htells := header_tellsChain r p kind pageWidth
  refine ⟨fun k q => Position.getElem?_chain_iff, p.nodup_chain,
    fun q q' _ _ hq hq' => ?_, p.length_chain, htells, fun lines hlines => ?_,
    fun hwidth => ?_⟩
  · exact ⟨Position.mem_chain_iff.mpr hq, Position.mem_chain_iff.mpr hq'⟩
  · obtain ⟨-, rfl⟩ := Extent.drawn_eq_ok_iff.mp hlines
    exact htells
  · have hruns := Extent.checkAll_eq_ok
      (headerRuns_le kind (some p) (Extent.longest_nonneg r.room) hwidth)
    exact ⟨_, Extent.drawn_eq_ok_iff.mpr ⟨hruns, rfl⟩⟩

/-- Two positions that agree and were inlined at each other, and a third that was
inlined at the first of them. -/
theorem header_tells_chain_circle :
    let source : SourceFile := { path := Text.ofString "a", content := [] }
    let site (startColumn : Nat) : Site :=
      { source
        span :=
          { startLine := 1, startColumn, endLine := 1, endColumn := startColumn
            one_le_startLine := by decide, startLine_le_endLine := Nat.le_refl 1
            startColumn_le_endColumn := fun _ => Nat.le_refl startColumn } }
    let graph := ExpansionGraph.ofLinks
      #[(site 0, some 1), (site 4, some 2), (site 4, some 1)]
    let p : Position := ⟨graph, (0 : Fin 3)⟩
    let q : Position := ⟨graph, (1 : Fin 3)⟩
    let q' : Position := ⟨graph, (2 : Fin 3)⟩
    p.chain[2]? = some q' ∧ p.chain[3]? = none
      ∧ (q ∈ p.chain ∧ q' ∈ p.chain)
      ∧ ∃ lines, ({} : Renderer).header? (some p) ['k'] (some 20) = .ok lines := by
  intro source site graph p q q'
  obtain ⟨-, -, hboth, -, -, -, hdrawn⟩ :=
    header_tells_chain {} p ['k'] (some 20)
  have hne : q ≠ q' := by
    intro h
    have heq : (1 : Fin 3) = 2 := Position.mk_injective graph h
    exact absurd heq (by decide)
  exact ⟨rfl, rfl,
    hboth q q' hne (by decide) ⟨1, by decide, rfl⟩ ⟨2, by decide, rfl⟩,
    hdrawn (by decide)⟩

end Renderer

end DiagnosticConsole
