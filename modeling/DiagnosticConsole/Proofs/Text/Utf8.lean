import DiagnosticConsole.Text.Utf8

/-!
# Bytes of a text that is cut

Cutting the bytes of a text may cut a character, and what is left of it is read
as one step, however many of its bytes are there: its first byte tells how many
follow and between which bounds, and what follows keeps to them up to the cut.
So the bytes in front of a cut fall into one step for each character that begins
there (`length_steps_take_encode_cons`), of which there are no more than the text
has.
-/

namespace DiagnosticConsole.Text.Utf8

/-! ## The bytes of a character -/

/-- Bytes that go on with a character: the first of them lies between two
bounds, and the others are any that do not begin one. -/
def Continues (low high : Nat) : Bytes → Prop
  | [] => True
  | b :: rest =>
      (low ≤ b.toNat ∧ b.toNat ≤ high)
        ∧ ∀ b' ∈ rest, 0x80 ≤ b'.toNat ∧ b'.toNat ≤ 0xBF

theorem Continues.tail {low high : Nat} {b : UInt8} {rest : Bytes}
    (h : Continues low high (b :: rest)) : Continues 0x80 0xBF rest := by
  cases rest with
  | nil => trivial
  | cons b' rest =>
      exact ⟨h.2 b' List.mem_cons_self,
        fun c hc => h.2 c (List.mem_cons_of_mem b' hc)⟩

theorem Continues.take {low high : Nat} {bytes : Bytes}
    (h : Continues low high bytes) (n : Nat) :
    Continues low high (bytes.take n) := by
  cases bytes with
  | nil => rwa [List.take_nil]
  | cons b rest =>
      cases n with
      | zero => trivial
      | succ n => exact ⟨h.1, fun c hc => h.2 c (List.mem_of_mem_take hc)⟩

theorem toNat_toUInt8 {n : Nat} (h : n < 0x100) : n.toUInt8.toNat = n := by
  rw [Nat.toUInt8_eq, UInt8.toNat_ofNat', Nat.mod_eq_of_lt h]

theorem toNat_trailing (n : Nat) : (trailing n).toNat = 0x80 + n % 0x40 := by
  rw [trailing, toNat_toUInt8 (by omega)]

theorem trailing_bounds (n : Nat) :
    0x80 ≤ (trailing n).toNat ∧ (trailing n).toNat ≤ 0xBF := by
  rw [toNat_trailing]
  omega

/-- A code point is not one of those that only stand for halves of others. -/
theorem toNat_bounds (c : Char) :
    c.toNat < 0xD800 ∨ (0xDFFF < c.toNat ∧ c.toNat < 0x110000) := c.valid

/-- A first byte that three are read from leaves room for the second of any code
point that takes three. -/
theorem follow?_two {n : Nat} (hlow : 0x800 ≤ n) (hhigh : n < 0x10000)
    (hvalid : n < 0xD800 ∨ 0xDFFF < n) :
    ∃ low high, follow? (0xE0 + n / 0x1000) = some (2, low, high)
      ∧ low ≤ 0x80 + n / 0x40 % 0x40 ∧ 0x80 + n / 0x40 % 0x40 ≤ high := by
  rw [follow?, if_neg (by omega), if_neg (by omega)]
  split
  · exact ⟨_, _, rfl, by omega, by omega⟩
  · split
    · exact ⟨_, _, rfl, by omega, by omega⟩
    · rw [if_pos (by omega)]
      exact ⟨_, _, rfl, by omega, by omega⟩

/-- The same of four. -/
theorem follow?_three {n : Nat} (hlow : 0x10000 ≤ n) (hhigh : n < 0x110000) :
    ∃ low high, follow? (0xF0 + n / 0x40000) = some (3, low, high)
      ∧ low ≤ 0x80 + n / 0x1000 % 0x40 ∧ 0x80 + n / 0x1000 % 0x40 ≤ high := by
  rw [follow?, if_neg (by omega), if_neg (by omega), if_neg (by omega),
    if_neg (by omega), if_neg (by omega)]
  split
  · exact ⟨_, _, rfl, by omega, by omega⟩
  · split
    · exact ⟨_, _, rfl, by omega, by omega⟩
    · rw [if_pos (by omega)]
      exact ⟨_, _, rfl, by omega, by omega⟩

/-- A character is one byte below those that begin longer ones, or a first byte
that tells how it goes on, and it goes on so. -/
theorem encodeChar_eq (c : Char) :
    ∃ first more, encodeChar c = first :: more
      ∧ (first.toNat < 0x80 ∧ more = []
        ∨ 0x80 ≤ first.toNat ∧ ∃ low high,
          follow? first.toNat = some (more.length, low, high)
            ∧ Continues low high more) := by
  have hvalid := toNat_bounds c
  rw [encodeChar]
  generalize c.toNat = n at hvalid
  split
  · next h1 =>
      have hfirst : n.toUInt8.toNat = n := toNat_toUInt8 (by omega)
      exact ⟨_, _, rfl, .inl ⟨by omega, rfl⟩⟩
  · split
    · next h2 =>
        have hfirst : (0xC0 + n / 0x40).toUInt8.toNat = 0xC0 + n / 0x40 :=
          toNat_toUInt8 (by omega)
        refine ⟨_, _, rfl, .inr ⟨by omega, 0x80, 0xBF, ?_, ?_⟩⟩
        · rw [hfirst, follow?, if_neg (by omega), if_pos (by omega)]
          rfl
        · exact ⟨trailing_bounds n, by simp⟩
    · split
      · next h3 =>
          have hfirst : (0xE0 + n / 0x1000).toUInt8.toNat = 0xE0 + n / 0x1000 :=
            toNat_toUInt8 (by omega)
          obtain ⟨low, high, hfollow, hsecond⟩ :=
            follow?_two (n := n) (by omega) h3 (by omega)
          refine ⟨_, _, rfl, .inr ⟨by omega, low, high, ?_, ?_, ?_⟩⟩
          · rw [hfirst]
            exact hfollow
          · rw [toNat_trailing]
            exact hsecond
          · simp [trailing_bounds]
      · next h3 =>
          have hfirst : (0xF0 + n / 0x40000).toUInt8.toNat = 0xF0 + n / 0x40000 :=
            toNat_toUInt8 (by omega)
          obtain ⟨low, high, hfollow, hsecond⟩ :=
            follow?_three (n := n) (by omega) (by omega)
          refine ⟨_, _, rfl, .inr ⟨by omega, low, high, ?_, ?_, ?_⟩⟩
          · rw [hfirst]
            exact hfollow
          · rw [toNat_trailing]
            exact hsecond
          · simp [trailing_bounds]

/-! ## Steps -/

/-- What a first byte promises is taken, as far as it is there. -/
theorem length_continuation {left value taken low high : Nat} {bytes : Bytes}
    (h : Continues low high (bytes.take left)) :
    (continuation left value taken low high bytes).length
      = taken + min left bytes.length := by
  induction left generalizing value taken low high bytes with
  | zero => rw [continuation, Step.length, Nat.zero_min, Nat.add_zero]
  | succ left ih =>
      cases bytes with
      | nil => rw [continuation, Step.length, List.length_nil, Nat.min_zero,
          Nat.add_zero]
      | cons b rest =>
          rw [List.take_succ_cons] at h
          rw [continuation]
          simp only [if_pos h.1]
          rw [ih h.tail, List.length_cons]
          omega

theorem stepsFrom_eq (skip : Nat) (bytes : Bytes) :
    stepsFrom skip bytes = steps (bytes.drop skip) := by
  induction skip generalizing bytes with
  | zero => rfl
  | succ skip ih =>
      cases bytes with
      | nil => rfl
      | cons b rest => rw [stepsFrom, ih, List.drop_succ_cons]

/-- The bytes of a character, followed by anything or cut, are one step. -/
theorem steps_take_encodeChar_append (c : Char) (rest : Bytes) (n : Nat) :
    ∃ s, steps ((encodeChar c ++ rest).take (n + 1))
      = s :: steps (rest.take (n + 1 - (encodeChar c).length)) := by
  obtain ⟨first, more, hbytes, hcases⟩ := encodeChar_eq c
  have hlength : (step first ((more ++ rest).take n)).length
      = 1 + min more.length ((more ++ rest).take n).length := by
    rw [step]
    rcases hcases with ⟨hfirst, rfl⟩ | ⟨hfirst, low, high, hfollow, hmore⟩
    · rw [if_pos hfirst, Step.length, List.length_nil, Nat.zero_min]
    · rw [if_neg (Nat.not_lt.mpr hfirst), hfollow]
      refine length_continuation ?_
      rw [List.take_take, Nat.min_comm, ← List.take_take, List.take_left]
      exact hmore.take n
  have htaken : min more.length ((more ++ rest).take n).length
      = (more.take n).length := by
    simp only [List.length_take, List.length_append]
    omega
  refine ⟨step first ((more ++ rest).take n), ?_⟩
  rw [hbytes, List.cons_append, List.take_succ_cons, steps, stepsFrom,
    stepsFrom_eq, hlength, htaken, Nat.add_sub_cancel_left, List.take_append,
    List.drop_left, List.length_cons, Nat.add_sub_add_right]

/-- The bytes in front of a cut fall into one step for each character that
begins there. -/
theorem length_steps_take_encode_cons (c : Char) (t : Text) (n : Nat) :
    (steps ((encode (c :: t)).take (n + 1))).length
      = 1 + (steps ((encode t).take (n + 1 - (encodeChar c).length))).length := by
  obtain ⟨s, hs⟩ := steps_take_encodeChar_append c (encode t) n
  rw [encode, List.flatMap_cons]
  rw [encode] at hs
  rw [hs, List.length_cons, Nat.add_comm]
  rfl

theorem length_steps_take_encode_le (t : Text) (n : Nat) :
    (steps ((encode t).take n)).length ≤ t.length := by
  induction t generalizing n with
  | nil => rw [encode, List.flatMap_nil, List.take_nil]; exact Nat.le_refl 0
  | cons c t ih =>
      cases n with
      | zero => rw [List.take_zero]; exact Nat.zero_le _
      | succ n =>
          have := ih (n + 1 - (encodeChar c).length)
          rw [length_steps_take_encode_cons, List.length_cons]
          omega

end DiagnosticConsole.Text.Utf8
