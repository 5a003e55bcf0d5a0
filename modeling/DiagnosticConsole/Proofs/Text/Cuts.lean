import DiagnosticConsole.Text.Basic

/-!
# Cuts of a text

An index that is not negative names the place so many characters into a text, or
its end. So cutting at such indices is what the library calls `take` and `drop`,
and slices that follow on one another make up the slice from the first place to
the last.
-/

namespace DiagnosticConsole.Text

theorem place_natCast (length n : Nat) : place length n = min n length := by
  rw [place, if_neg (by omega), Int.toNat_natCast]

theorem before_natCast (t : Text) (n : Nat) : before t n = t.take n := by
  rw [before, place_natCast, ← List.take_take, List.take_length]

theorem after_natCast (t : Text) (n : Nat) : after t n = t.drop n := by
  rw [after, place_natCast]
  rcases Nat.le_total n t.length with h | h
  · rw [Nat.min_eq_left h]
  · rw [Nat.min_eq_right h, List.drop_length, List.drop_eq_nil_of_le h]

theorem slice_eq_drop_take (t : Text) (start stop : Nat) :
    slice t start stop = (t.take stop).drop start := by
  have hlen : (t.take stop).length ≤ t.length := List.length_take_le' stop t
  rw [slice, before_natCast, place_natCast]
  rcases Nat.le_total start t.length with h | h
  · rw [Nat.min_eq_left h]
  · rw [Nat.min_eq_right h, List.drop_eq_nil_of_le hlen,
      List.drop_eq_nil_of_le (Nat.le_trans hlen h)]

theorem length_slice (t : Text) (start stop : Nat) :
    (slice t start stop).length = min stop t.length - start := by
  rw [slice_eq_drop_take, List.length_drop, List.length_take]

theorem slice_succ {t : Text} {start : Nat} (h : start < t.length) :
    slice t start (start + 1 : Nat) = [t[start]] := by
  rw [slice_eq_drop_take, List.drop_take, Nat.add_sub_cancel_left,
    List.drop_eq_getElem_cons h]
  rfl

/-- What stands before an offset goes on up to a later one with the slice
between the two. -/
theorem take_append_slice (t : Text) {start stop : Nat} (h : start ≤ stop) :
    t.take start ++ slice t start stop = t.take stop := by
  have hcut := List.take_append_drop start (t.take stop)
  rw [List.take_take, Nat.min_eq_left h] at hcut
  rw [slice_eq_drop_take, hcut]

theorem slice_append_slice (t : Text) {start middle stop : Nat}
    (h : start ≤ middle) (h' : middle ≤ stop) :
    slice t start middle ++ slice t middle stop = slice t start stop := by
  have hwhole := take_append_slice t (Nat.le_trans h h')
  rw [← take_append_slice t h', ← take_append_slice t h, List.append_assoc]
    at hwhole
  exact (List.append_cancel_left hwhole).symm

end DiagnosticConsole.Text
