import DiagnosticConsole.Text.Basic
import Mathlib.Data.List.Lex
import Mathlib.Data.List.Sort

/-!
# The order of code points

Texts go by their first difference, and a text goes before those that it begins.
Putting a text in its place keeps a list of texts strictly in order, and a list
that is strictly in order is settled by its members. So the distinct texts of a
list in order do not depend on how the list has them (`distinctInOrder_congr`).
-/

namespace DiagnosticConsole.Text

/-- A text goes before another in the order of code points. -/
abbrev Ahead : Text → Text → Prop :=
  List.Lex fun a b : Char => a.toNat < b.toNat

theorem ahead_cons_iff {a b : Char} {s t : Text} :
    Ahead (a :: s) (b :: t) ↔ a.toNat < b.toNat ∨ a = b ∧ Ahead s t :=
  List.cons_lex_cons_iff

theorem precedes_iff {s t : Text} : precedes s t = true ↔ Ahead s t := by
  induction s generalizing t with
  | nil => cases t <;> simp [precedes]
  | cons a s ih =>
      cases t with
      | nil => simp [precedes]
      | cons b t =>
          rw [precedes, ahead_cons_iff]
          by_cases hab : a = b
          · rw [if_pos hab, ih, hab]
            simp
          · rw [if_neg hab]
            simp [hab]

theorem ahead_irrefl (t : Text) : ¬ Ahead t t :=
  List.lex_irrefl (fun c => Nat.lt_irrefl c.toNat) t

theorem ahead_trans {s t u : Text} (h : Ahead s t) (h' : Ahead t u) : Ahead s u :=
  List.lex_trans (fun hab hbc => Nat.lt_trans hab hbc) h h'

theorem ahead_of_not_ahead {s t : Text} (hne : s ≠ t) (h : ¬ Ahead s t) :
    Ahead t s := by
  induction s generalizing t with
  | nil => exact absurd (List.not_nil_lex_iff.mp h).symm hne
  | cons a s ih =>
      cases t with
      | nil => exact .nil
      | cons b t =>
          rw [ahead_cons_iff, not_or] at h
          rcases Nat.lt_trichotomy a.toNat b.toNat with hab | hab | hab
          · exact absurd hab h.1
          · obtain rfl := Char.toNat_inj.mp hab
            exact .cons (ih (fun hst => hne (by rw [hst])) fun hst => h.2 ⟨rfl, hst⟩)
          · exact .rel hab

/-! ## Distinct texts in order -/

theorem mem_insertInOrder {t u : Text} {ts : List Text} :
    u ∈ insertInOrder t ts ↔ u = t ∨ u ∈ ts := by
  induction ts with
  | nil => exact List.mem_cons
  | cons v ts ih =>
      rw [insertInOrder]
      split
      next htv => simp [htv]
      next =>
        split
        next => exact List.mem_cons
        next => rw [List.mem_cons, List.mem_cons, ih, or_left_comm]

theorem pairwise_insertInOrder (t : Text) {ts : List Text}
    (h : ts.Pairwise Ahead) : (insertInOrder t ts).Pairwise Ahead := by
  induction ts with
  | nil => exact List.pairwise_singleton Ahead t
  | cons v ts ih =>
      obtain ⟨hv, hts⟩ := List.pairwise_cons.mp h
      rw [insertInOrder]
      split
      next => exact h
      next hne =>
        split
        next htv =>
          have htv := precedes_iff.mp htv
          refine List.pairwise_cons.mpr ⟨?_, h⟩
          intro u hu
          rcases List.mem_cons.mp hu with rfl | hu
          · exact htv
          · exact ahead_trans htv (hv u hu)
        next htv =>
          rw [precedes_iff] at htv
          refine List.pairwise_cons.mpr ⟨?_, ih hts⟩
          intro u hu
          rcases mem_insertInOrder.mp hu with rfl | hu
          · exact ahead_of_not_ahead hne htv
          · exact hv u hu

theorem mem_distinctInOrder {t : Text} {ts : List Text} :
    t ∈ distinctInOrder ts ↔ t ∈ ts := by
  induction ts with
  | nil => exact Iff.rfl
  | cons u ts ih =>
      show t ∈ insertInOrder u (distinctInOrder ts) ↔ t ∈ u :: ts
      rw [mem_insertInOrder, ih, List.mem_cons]

theorem pairwise_distinctInOrder (ts : List Text) :
    (distinctInOrder ts).Pairwise Ahead := by
  induction ts with
  | nil => exact .nil
  | cons t ts ih => exact pairwise_insertInOrder t ih

/-- Texts that are strictly in order are settled by which they are. -/
theorem eq_of_mem_iff_of_pairwise {ts us : List Text} (hts : ts.Pairwise Ahead)
    (hus : us.Pairwise Ahead) (h : ∀ t, t ∈ ts ↔ t ∈ us) : ts = us := by
  have : Std.Irrefl Ahead := ⟨ahead_irrefl⟩
  have : Std.Antisymm Ahead :=
    ⟨fun s t hst hts => absurd (ahead_trans hst hts) (ahead_irrefl s)⟩
  exact hts.eq_of_mem_iff hus h

theorem distinctInOrder_congr {ts us : List Text} (h : ∀ t, t ∈ ts ↔ t ∈ us) :
    distinctInOrder ts = distinctInOrder us := by
  refine eq_of_mem_iff_of_pairwise (pairwise_distinctInOrder ts)
    (pairwise_distinctInOrder us) fun t => ?_
  rw [mem_distinctInOrder, mem_distinctInOrder, h]

end DiagnosticConsole.Text
