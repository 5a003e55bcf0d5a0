import DiagnosticConsole.Evaluation.Location
import DiagnosticConsole.Proofs.Text.Utf8
import Mathlib.Order.Bounds.Basic

/-!
# Columns from byte offsets

The host counts columns in bytes, and the console in characters. The bytes in
front of an offset are read back, and what is left of a character that the offset
cuts counts as one, so the column is the number of characters that begin in front
of the offset.

All that there is to know of a column is in `lt_charColumn_iff`: a character lies
before it just if its first byte lies before the offset. That the column is the
least that covers the offset, that it grows with it, and where it is at the bounds
of characters and between them all follow from this, most of it by way of the
negation (`charColumn_le_iff`).
-/

namespace DiagnosticConsole

namespace Text.Utf8

/-! ## The length in bytes -/

/-- The number of bytes of a text. -/
def byteLength : Text → Nat
  | [] => 0
  | c :: t => c.utf8Size + byteLength t

theorem val_le_iff_toNat_lt (c : Char) {n : Nat} (h : n < UInt32.size) :
    c.val ≤ UInt32.ofNatLT n h ↔ c.toNat < n + 1 := by
  rw [UInt32.le_iff_toNat_le]
  exact Nat.lt_succ_iff.symm

theorem length_encodeChar (c : Char) : (encodeChar c).length = c.utf8Size := by
  rw [encodeChar, Char.utf8Size]
  simp only [val_le_iff_toNat_lt, Nat.reduceAdd]
  split
  · rfl
  · split
    · rfl
    · split <;> rfl

theorem length_encode (t : Text) : (encode t).length = byteLength t := by
  induction t with
  | nil => rfl
  | cons c t ih =>
      rw [byteLength, ← ih, ← length_encodeChar, encode, List.flatMap_cons,
        List.length_append]
      rfl

/-- The bytes of a text in front of a character are fewer than those of the
text. -/
theorem byteLength_take_lt_iff {t : Text} {k : Nat} :
    byteLength (t.take k) < byteLength t ↔ k < t.length := by
  induction t generalizing k with
  | nil => simp
  | cons c t ih =>
      have hpos := c.utf8Size_pos
      cases k with
      | zero =>
          rw [List.take_zero, byteLength, byteLength, List.length_cons]
          exact iff_of_true (Nat.add_pos_left hpos _) (Nat.succ_pos _)
      | succ k =>
          rw [List.take_succ_cons, byteLength, byteLength, List.length_cons,
            Nat.add_lt_add_iff_left, ih, Nat.add_lt_add_iff_right]

theorem byteLength_take_succ {t : Text} {k : Nat} (hk : k < t.length) :
    byteLength (t.take (k + 1)) = byteLength (t.take k) + t[k].utf8Size := by
  induction t generalizing k with
  | nil => exact absurd hk (Nat.not_lt_zero k)
  | cons c t ih =>
      cases k with
      | zero => exact Nat.add_comm _ _
      | succ k =>
          rw [List.take_succ_cons, byteLength, ih (Nat.lt_of_succ_lt_succ hk),
            List.take_succ_cons, byteLength, List.getElem_cons_succ, Nat.add_assoc]

end Text.Utf8

namespace Evaluation

open Text.Utf8

/-! ## The column of an offset -/

theorem charColumn_natCast (row : Text) (b : Nat) :
    charColumn row b = (steps ((encode row).take b)).length := by
  have hplace : (encode row).take (Text.place (encode row).length b)
      = (encode row).take b := by
    rw [Text.place, if_neg (by omega), Int.toNat_natCast, List.take_eq_take_iff]
    omega
  rw [charColumn, decodeLenient, List.length_map, hplace]

/-- A character lies before a column just if it begins before the offset. -/
theorem lt_charColumn_iff {row : Text} {b i : Nat} :
    i < charColumn row b
      ↔ i < row.length ∧ byteLength (row.take i) < b := by
  rw [charColumn_natCast]
  induction row generalizing b i with
  | nil => simp [encode, steps, stepsFrom]
  | cons c t ih =>
      cases b with
      | zero => simp [steps, stepsFrom]
      | succ b =>
          rw [length_steps_take_encode_cons, length_encodeChar]
          cases i with
          | zero =>
              rw [List.take_zero, List.length_cons]
              exact iff_of_true (Nat.add_pos_left Nat.one_pos _)
                ⟨Nat.succ_pos _, Nat.succ_pos _⟩
          | succ i =>
              have hrest := ih (b := b + 1 - c.utf8Size) (i := i)
              rw [List.take_succ_cons, byteLength, List.length_cons]
              omega

/-- A column lies at or before a place just if the line ends there or the offset is
reached. -/
theorem charColumn_le_iff {row : Text} {b k : Nat} :
    charColumn row b ≤ k ↔ row.length ≤ k ∨ b ≤ byteLength (row.take k) := by
  rw [← Nat.not_lt, lt_charColumn_iff, not_and_or, Nat.not_lt, Nat.not_lt]

theorem charColumn_le_length (row : Text) (byteOffset : Int) :
    charColumn row byteOffset ≤ row.length := by
  rw [charColumn, decodeLenient, List.length_map]
  exact length_steps_take_encode_le row _

theorem charColumn_mono (row : Text) {b b' : Nat} (h : b ≤ b') :
    charColumn row b ≤ charColumn row b' :=
  charColumn_le_iff.mpr
    ((charColumn_le_iff.mp (Nat.le_refl _)).imp_right (Nat.le_trans h))

/-- An offset behind the first byte of a character and not behind its last is in the
column behind that character. -/
theorem charColumn_eq_succ {row : Text} {b k : Nat} (hk : k < row.length)
    (hfirst : byteLength (row.take k) < b)
    (hlast : b ≤ byteLength (row.take (k + 1))) : charColumn row b = k + 1 :=
  Nat.le_antisymm (charColumn_le_iff.mpr (.inr hlast))
    (lt_charColumn_iff.mpr ⟨hk, hfirst⟩)

/-- An offset between two characters, or at either end of the line, is in the column
between them. -/
theorem charColumn_byteLength_take {row : Text} {k : Nat} (hk : k ≤ row.length) :
    charColumn row (byteLength (row.take k) : Nat) = k := by
  cases k with
  | zero => exact Nat.le_zero.mp (charColumn_le_iff.mpr (.inr (Nat.le_refl _)))
  | succ k =>
      have hstep := byteLength_take_succ hk
      have hpos := row[k].utf8Size_pos
      exact charColumn_eq_succ hk (by omega) (Nat.le_refl _)

theorem charColumn_eq_countP (row : Text) (b : Nat) :
    charColumn row b
      = (List.range row.length).countP
        (fun i => byteLength (row.take i) < b) := by
  obtain ⟨rest, hrest⟩ := Nat.exists_eq_add_of_le (charColumn_le_length row b)
  have hbegun : (List.range (charColumn row b)).countP
      (fun i => byteLength (row.take i) < b) = charColumn row b := by
    rw [List.countP_eq_length.mpr, List.length_range]
    intro i hi
    exact decide_eq_true (lt_charColumn_iff.mp (List.mem_range.mp hi)).2
  have hnot : ((List.range rest).map (charColumn row b + ·)).countP
      (fun i => byteLength (row.take i) < b) = 0 := by
    rw [List.countP_eq_zero]
    intro i hi hbegins
    obtain ⟨j, hj, rfl⟩ := List.mem_map.mp hi
    have hlength : charColumn row b + j < row.length := by
      have := List.mem_range.mp hj
      omega
    have := lt_charColumn_iff.mpr ⟨hlength, of_decide_eq_true hbegins⟩
    omega
  rw [hrest, List.range_add, List.countP_append, hbegun, hnot, Nat.add_zero]

theorem isLeast_charColumn (row : Text) (b : Nat) :
    IsLeast {k | min b (byteLength row) ≤ byteLength (row.take k)}
      (charColumn row b) := by
  constructor
  · rcases charColumn_le_iff.mp (Nat.le_refl (charColumn row b)) with hend | hreached
    · show min b (byteLength row) ≤ byteLength (row.take (charColumn row b))
      rw [List.take_of_length_le hend]
      exact Nat.min_le_right _ _
    · exact Nat.le_trans (Nat.min_le_left _ _) hreached
  · intro k (hk : min b (byteLength row) ≤ byteLength (row.take k))
    rw [charColumn_le_iff, ← Nat.not_lt, ← byteLength_take_lt_iff]
    omega

/-- The column of a byte offset is the number of characters that begin in front of
it. It is the fewest characters that reach the offset, or the end of the line where
the offset lies past it; so it is where the offset is between two characters, and
behind a character that the offset cuts, whatever is left of it. It never leaves the
line, and does not go back as the offset goes on. -/
theorem charColumn_counts_begun (row : Text) (b : Nat) :
    (encode row).length = byteLength row
      ∧ charColumn row b
        = (List.range row.length).countP (fun i => byteLength (row.take i) < b)
      ∧ IsLeast {k | min b (byteLength row) ≤ byteLength (row.take k)}
        (charColumn row b)
      ∧ (∀ k ≤ row.length, b = byteLength (row.take k) → charColumn row b = k)
      ∧ (∀ k, ∀ hk : k < row.length, ∀ n, 0 < n → n < row[k].utf8Size →
        b = byteLength (row.take k) + n → charColumn row b = k + 1)
      ∧ charColumn row b ≤ row.length
      ∧ ∀ b' : Nat, b ≤ b' → charColumn row b ≤ charColumn row b' := by
  refine ⟨length_encode row, charColumn_eq_countP row b,
    isLeast_charColumn row b, ?_, ?_, charColumn_le_length row b,
    fun b' => charColumn_mono row⟩
  · rintro k hk rfl
    exact charColumn_byteLength_take hk
  · rintro k hk n hpos hcut rfl
    have hstep := byteLength_take_succ hk
    exact charColumn_eq_succ hk (by omega) (by omega)

example : (List.range 12).map (fun b => charColumn (Text.ofString "aé€😀") (b : Nat))
    = [0, 1, 2, 2, 3, 3, 3, 4, 4, 4, 4, 4] := by decide

end Evaluation

end DiagnosticConsole
