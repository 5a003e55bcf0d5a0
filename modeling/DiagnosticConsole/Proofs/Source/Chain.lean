import DiagnosticConsole.Source.Position
import Mathlib.Data.List.Nodup
import Mathlib.Data.Set.Card
import Mathlib.Data.Set.Finite.Range

/-!
# How far a chain goes

Following the links from a position gives a sequence of positions that may end,
may come back to where it has been, or may go on for longer than a chain is
allowed to be. A chain is the part of it before the first of these three.

`getElem?_follow_iff` says so of the walk itself, for any room and any places
that count as passed; that is the one induction over the walk, and its step is
that the place the walk is at becomes one of those (`avoids_and_distinct_succ`).
What a chain is follows at once (`getElem?_chain_iff`). That it leaves nothing out
if it ends early is an argument about sequences: an early end is an end of the
links or a repetition, and from there on nothing new is met.
-/

namespace DiagnosticConsole.Position

/-! ## The walk along the links -/

/-- The place after so many links, if there are as many. -/
def walk (graph : ExpansionGraph) (start : Option (Fin graph.size)) :
    Nat → Option (Fin graph.size)
  | 0 => start
  | k + 1 => (walk graph start k).bind graph.outer

theorem walk_succ (graph : ExpansionGraph) (start : Option (Fin graph.size))
    (k : Nat) :
    walk graph start (k + 1) = walk graph (start.bind graph.outer) k := by
  induction k with
  | zero => rfl
  | succ k ih =>
      rw [walk, ih]
      rfl

theorem walk_none (graph : ExpansionGraph) (k : Nat) :
    walk graph none k = none := by
  induction k with
  | zero => rfl
  | succ k ih =>
      rw [walk, ih]
      rfl

/-- No two of the first so many places of a sequence are the same. -/
def Distinct {α : Type} (places : Nat → Option α) (k : Nat) : Prop :=
  ∀ i j, i < j → j ≤ k → places i ≠ places j

/-- None of the first so many places of a sequence is in a list. -/
def Avoids {α : Type} (places : Nat → Option α) (passed : List α) (k : Nat) :
    Prop :=
  ∀ j ≤ k, ∀ s ∈ passed, places j ≠ some s

theorem avoids_nil {α : Type} (places : Nat → Option α) (k : Nat) :
    Avoids places [] k := by
  intro j _ s hs
  cases hs

/-- What a sequence must not come back to, seen from its second place: the first
is one place more that was passed. -/
theorem avoids_and_distinct_succ {α : Type} {places rest : Nat → Option α}
    {s : α} (hfirst : places 0 = some s) (hrest : ∀ j, places (j + 1) = rest j)
    (passed : List α) (k : Nat) :
    Avoids places passed (k + 1) ∧ Distinct places (k + 1)
      ↔ s ∉ passed ∧ Avoids rest (s :: passed) k ∧ Distinct rest k := by
  constructor
  · rintro ⟨havoids, hdistinct⟩
    refine ⟨fun hs => havoids 0 (Nat.zero_le _) s hs hfirst, ?_, ?_⟩
    · intro j hj p hp
      rw [← hrest]
      rcases List.mem_cons.mp hp with rfl | hp
      · rw [← hfirst]
        exact (hdistinct 0 (j + 1) (Nat.zero_lt_succ j)
          (Nat.succ_le_succ hj)).symm
      · exact havoids (j + 1) (Nat.succ_le_succ hj) p hp
    · intro i j hij hj
      rw [← hrest, ← hrest]
      exact hdistinct (i + 1) (j + 1) (Nat.succ_lt_succ hij)
        (Nat.succ_le_succ hj)
  · rintro ⟨hfresh, havoids, hdistinct⟩
    refine ⟨?_, ?_⟩
    · rintro (_ | j) hj p hp
      · intro heq
        obtain rfl := Option.some.inj (hfirst.symm.trans heq)
        exact hfresh hp
      · rw [hrest]
        exact havoids j (Nat.le_of_succ_le_succ hj) p
          (List.mem_cons_of_mem s hp)
    · rintro (_ | i) (_ | j) hij hj
      · cases hij
      · rw [hfirst, hrest]
        exact (havoids j (Nat.le_of_succ_le_succ hj) s
          List.mem_cons_self).symm
      · cases hij
      · rw [hrest, hrest]
        exact hdistinct i j (Nat.lt_of_succ_lt_succ hij)
          (Nat.le_of_succ_le_succ hj)

/-- What the walk meets as the place of a number: the one after so many links, if
there is room for it, none of those up to it was passed before, and no two of
them are the same. -/
theorem getElem?_follow_iff {graph : ExpansionGraph} {room : Nat}
    {passed : List (Fin graph.size)} {start : Option (Fin graph.size)} {k : Nat}
    {place : Fin graph.size} :
    (follow graph room passed start)[k]? = some place
      ↔ k < room ∧ walk graph start k = some place
        ∧ Avoids (walk graph start) passed k
        ∧ Distinct (walk graph start) k := by
  induction room generalizing passed start k with
  | zero => simp [follow]
  | succ room ih =>
      cases start with
      | none => simp [follow, walk_none]
      | some s =>
          rw [follow]
          split
          · next hpassed =>
              -- The walk ends where it begins, at a place that was passed.
              constructor
              · intro h
                cases h
              · rintro ⟨-, -, havoids, -⟩
                exact absurd rfl (havoids 0 (Nat.zero_le k) s hpassed)
          · next hfresh =>
              cases k with
              | zero =>
                  rw [List.getElem?_cons_zero]
                  constructor
                  · intro h
                    refine ⟨Nat.zero_lt_succ room, h, ?_, ?_⟩
                    · rintro j hj p hp hwalk
                      obtain rfl := Nat.le_zero.mp hj
                      obtain rfl := Option.some.inj hwalk
                      exact hfresh hp
                    · intro i j hij hj
                      omega
                  · exact fun h => h.2.1
              | succ k =>
                  have hnext : ∀ j, walk graph (some s) (j + 1)
                      = walk graph (graph.outer s) j := walk_succ graph (some s)
                  have hfirst : walk graph (some s) 0 = some s := rfl
                  rw [List.getElem?_cons_succ, ih, hnext,
                    avoids_and_distinct_succ hfirst hnext, and_iff_right hfresh,
                    Nat.succ_lt_succ_iff]

/-! ## The chain of a position -/

variable {p q : Position}

/-- The position after so many links, if there are as many. -/
def outward (p : Position) : Nat → Option Position
  | 0 => some p
  | k + 1 => (p.outward k).bind outer

/-- Some number of links lead from a position to another. -/
def Reaches (p q : Position) : Prop := ∃ k, p.outward k = some q

theorem outward_eq_map (p : Position) (k : Nat) :
    p.outward k
      = (walk p.graph (some p.index) k).map fun i => ⟨p.graph, i⟩ := by
  induction k with
  | zero => rfl
  | succ k ih =>
      rw [outward, ih, walk]
      cases walk p.graph (some p.index) k with
      | none => rfl
      | some i => rfl

/-- Positions in a graph are told apart by their places in it. -/
theorem mk_injective (graph : ExpansionGraph) :
    Function.Injective fun i : Fin graph.size => (⟨graph, i⟩ : Position) := by
  intro i j h
  cases h
  rfl

theorem distinct_outward_iff {k : Nat} :
    Distinct p.outward k
      ↔ Distinct (walk p.graph (some p.index)) k := by
  simp only [Distinct, outward_eq_map, ne_eq,
    (Option.map_injective (mk_injective p.graph)).eq_iff]

/-- What a chain has at a number: the position after so many links, if that is
not more than a chain may have and none of the positions up to it is met again
before. -/
theorem getElem?_chain_iff {k : Nat} :
    p.chain[k]? = some q
      ↔ k < maxDepth ∧ p.outward k = some q ∧ Distinct p.outward k := by
  rw [distinct_outward_iff, chain, List.getElem?_map, outward_eq_map,
    Option.map_eq_some_iff, Option.map_eq_some_iff]
  simp only [getElem?_follow_iff, avoids_nil, true_and]
  constructor
  · rintro ⟨i, ⟨hroom, hwalk, hdistinct⟩, rfl⟩
    exact ⟨hroom, ⟨i, hwalk, rfl⟩, hdistinct⟩
  · rintro ⟨hroom, ⟨i, hwalk, rfl⟩, hdistinct⟩
    exact ⟨i, ⟨hroom, hwalk, hdistinct⟩, rfl⟩

theorem getElem?_chain_zero (p : Position) : p.chain[0]? = some p := by
  rw [getElem?_chain_iff]
  exact ⟨by decide, rfl, fun i j hij hj => by omega⟩

theorem length_chain_pos (p : Position) : 0 < p.chain.length :=
  (List.getElem?_eq_some_iff.mp (getElem?_chain_zero p)).1

/-- Below its length a chain has the positions that the links lead to. -/
theorem getElem?_chain {k : Nat} (h : k < p.chain.length) :
    p.chain[k]? = p.outward k := by
  have hget := List.getElem?_eq_getElem h
  rw [hget, (getElem?_chain_iff.mp hget).2.1]

theorem length_chain_le (p : Position) : p.chain.length ≤ maxDepth := by
  have hpos := p.length_chain_pos
  have hlast := List.getElem?_eq_getElem
    (show p.chain.length - 1 < p.chain.length by omega)
  have := (getElem?_chain_iff.mp hlast).1
  omega

theorem nodup_chain (p : Position) : p.chain.Nodup := by
  rw [List.nodup_iff_getElem?_ne_getElem?]
  intro i j hij hj
  have hlast := getElem?_chain_iff.mp (List.getElem?_eq_getElem hj)
  rw [getElem?_chain (Nat.lt_trans hij hj), getElem?_chain hj]
  exact hlast.2.2 i j hij (Nat.le_refl j)

/-! ## What a chain leaves out -/

/-- A chain that has room for more ends where the links end or lead back into
it. -/
theorem outward_length_chain (h : p.chain.length < maxDepth) :
    p.outward p.chain.length = none
      ∨ ∃ i < p.chain.length, p.outward p.chain.length = p.outward i := by
  cases hnext : p.outward p.chain.length with
  | none => exact .inl rfl
  | some q =>
      by_contra hnone
      rw [not_or, not_exists] at hnone
      -- Nothing is met again up to here, so the chain would go on.
      have hdistinct : Distinct p.outward p.chain.length := by
        intro i j hij hj heq
        rcases Nat.lt_or_eq_of_le hj with hlt | rfl
        · have hmet :=
            getElem?_chain_iff.mp (List.getElem?_eq_getElem hlt)
          exact hmet.2.2 i j hij (Nat.le_refl j) heq
        · exact hnone.2 i ⟨hij, by rw [← hnext, heq]⟩
      have hmore := getElem?_chain_iff.mpr ⟨h, hnext, hdistinct⟩
      rw [List.getElem?_eq_none (Nat.le_refl _)] at hmore
      cases hmore

/-- A chain that has room for more leaves out nothing. -/
theorem mem_chain_of_reaches (h : p.chain.length < maxDepth)
    (hreaches : p.Reaches q) : q ∈ p.chain := by
  have hmem : ∀ i < p.chain.length, ∀ r, p.outward i = some r →
      r ∈ p.chain := by
    intro i hi r hr
    rw [← getElem?_chain hi] at hr
    exact List.mem_of_getElem? hr
  -- Every position on the way is one of the chain's, after fewer links.
  have hearlier : ∀ k, p.outward k = none
      ∨ ∃ i < p.chain.length, p.outward k = p.outward i := by
    intro k
    induction k with
    | zero => exact .inr ⟨0, p.length_chain_pos, rfl⟩
    | succ k ih =>
        rcases ih with hnone | ⟨i, hi, heq⟩
        · exact .inl (by rw [outward, hnone]; rfl)
        · have hnext : p.outward (k + 1) = p.outward (i + 1) := by
            rw [outward, heq, ← outward]
          rcases Nat.lt_or_eq_of_le (Nat.succ_le_of_lt hi) with hlt | hlast
          · exact .inr ⟨i + 1, hlt, hnext⟩
          · rw [hnext, show i + 1 = p.chain.length from hlast]
            exact outward_length_chain h
  obtain ⟨k, hk⟩ := hreaches
  rcases hearlier k with hnone | ⟨i, hi, heq⟩
  · rw [hnone] at hk
    cases hk
  · exact hmem i hi q (heq.symm.trans hk)

/-- A chain has what is met in fewer links than it may have positions. Positions
that agree but are not one are met one by one. -/
theorem mem_chain_iff : q ∈ p.chain ↔ ∃ k < maxDepth, p.outward k = some q := by
  constructor
  · intro h
    obtain ⟨k, hk⟩ := List.mem_iff_getElem?.mp h
    have hmet := getElem?_chain_iff.mp hk
    exact ⟨k, hmet.1, hmet.2.1⟩
  · rintro ⟨k, hk, hq⟩
    rcases Nat.lt_or_eq_of_le p.length_chain_le with hlt | hfull
    · exact mem_chain_of_reaches hlt ⟨k, hq⟩
    · rw [← getElem?_chain (hfull.symm ▸ hk)] at hq
      exact List.mem_of_getElem? hq

theorem finite_reaches (p : Position) : {q | p.Reaches q}.Finite := by
  refine (Set.finite_range fun i : Fin p.graph.size =>
    (⟨p.graph, i⟩ : Position)).subset ?_
  rintro q ⟨k, hk⟩
  rw [outward_eq_map, Option.map_eq_some_iff] at hk
  obtain ⟨i, -, rfl⟩ := hk
  exact ⟨i, rfl⟩

/-- A chain has all positions that can be reached, or as many as it may have. -/
theorem length_chain (p : Position) :
    p.chain.length = min maxDepth {q | p.Reaches q}.ncard := by
  classical
  have hcard : ((p.chain.toFinset : Finset Position) : Set Position).ncard
      = p.chain.length := by
    rw [Set.ncard_coe_finset, List.toFinset_card_of_nodup p.nodup_chain]
  have hsubset : ((p.chain.toFinset : Finset Position) : Set Position)
      ⊆ {q | p.Reaches q} := by
    intro q hq
    obtain ⟨k, -, hk⟩ := mem_chain_iff.mp (List.mem_toFinset.mp hq)
    exact ⟨k, hk⟩
  have hle := Set.ncard_le_ncard hsubset p.finite_reaches
  rcases Nat.lt_or_eq_of_le p.length_chain_le with hlt | heq
  · have hall : {q | p.Reaches q}
        ⊆ ((p.chain.toFinset : Finset Position) : Set Position) := by
      intro q hq
      exact List.mem_toFinset.mpr (mem_chain_of_reaches hlt hq)
    have hge := Set.ncard_le_ncard hall (Set.toFinite _)
    omega
  · omega

end DiagnosticConsole.Position
