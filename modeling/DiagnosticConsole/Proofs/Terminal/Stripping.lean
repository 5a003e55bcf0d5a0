import DiagnosticConsole.Proofs.Terminal.Escape
import Mathlib.Data.List.Infix
import Mathlib.Data.List.TakeWhile

/-!
# Taking colours out twice

Taking a sequence out brings together what was on its two sides, and that may
be the two halves of another sequence. So what is left when colours are taken
out may have a colour in it that was not there before, and taking colours out
again changes the text again (`stripColor_rejoins`).

There is no other way for it to happen. A sequence has an escape character at
its front and none behind, so no two sequences of a text overlap and one walk
takes out all of them. A sequence that is left was an interrupted one: its first
and its last character stood in the text, and between them its other characters
with whole sequences in their midst.
-/

namespace DiagnosticConsole.Escape

/-- A text becomes another when some whole sequences of a kind are taken out of
it. -/
inductive Form.Reduces (form : Form) : Text → Text → Prop
  | nil : Reduces form [] []
  | keep (c : Char) {m n : Text} (h : Reduces form m n) :
      Reduces form (c :: m) (c :: n)
  | drop {q m n : Text} (hq : form.IsSequence q) (h : Reduces form m n) :
      Reduces form (q ++ m) n

/-- A sequence of a kind with whole sequences in its midst, at least one. -/
def Form.Interrupted (form : Form) (u : Text) : Prop :=
  ∃ first m n last, u = first :: m ++ [last] ∧ form.Reduces m n ∧ m ≠ n
    ∧ form.IsSequence (first :: n ++ [last])

/-! ## What one walk takes out -/

theorem remove_cons_of_length {form : Form} {c : Char} {t : Text}
    (h : form.length (c :: t) = 0) :
    remove [form] (c :: t) = c :: remove [form] t :=
  remove_cons_of_lengthOf
    (lengthOf_eq_zero_iff.mpr (List.forall_mem_singleton.mpr h))

/-- At its front a text has a sequence, which is taken out, or a character that
is left, or it has nothing. -/
theorem remove_cases (form : Form) (t : Text) :
    t = []
      ∨ (∃ q rest, form.IsSequence q ∧ t = q ++ rest
        ∧ rest.length < t.length ∧ remove [form] t = remove [form] rest)
      ∨ ∃ c rest, t = c :: rest ∧ form.length t = 0
        ∧ remove [form] t = c :: remove [form] rest := by
  cases t with
  | nil => exact .inl rfl
  | cons c rest =>
      right
      by_cases hzero : form.length (c :: rest) = 0
      · exact .inr ⟨c, rest, rfl, hzero, remove_cons_of_length hzero⟩
      · obtain ⟨q, hq, more, hmore⟩ := Form.exists_sequence_of_length hzero
        have hpos := hq.length_pos
        refine .inl ⟨q, more, hq, hmore.symm, ?_, ?_⟩
        · rw [← hmore, List.length_append]
          omega
        · rw [← hmore, remove_sequence_append hq]

/-- A text is left as it is just if no sequence is anywhere in it. -/
theorem remove_eq_self_iff {forms : List Form} {t : Text} :
    remove forms t = t
      ↔ ∀ form ∈ forms, ∀ q, form.IsSequence q → ¬ q <:+: t := by
  induction t with
  | nil =>
      refine iff_of_true rfl fun form _ q hq hin => ?_
      have hpos := hq.length_pos
      rw [List.infix_nil.mp hin] at hpos
      cases hpos
  | cons c t ih =>
      by_cases hzero : lengthOf forms (c :: t) = 0
      · rw [remove_cons_of_lengthOf hzero, List.cons.injEq, and_iff_right rfl, ih]
        refine forall₂_congr fun form hform => forall₂_congr fun q hq => ?_
        have hfront := lengthOf_eq_zero_iff.mp hzero form hform
        rw [List.infix_cons_iff, not_or,
          and_iff_right (Form.length_eq_zero_iff.mp hfront q hq)]
      · -- A sequence begins the text, so at least one character is gone.
        obtain ⟨form, hform, q, hq, hprefix⟩ := lengthOf_ne_zero_iff.mp hzero
        refine iff_of_false (fun hself => ?_) fun hnone =>
          hnone form hform q hq hprefix.isInfix
        obtain ⟨n, hn⟩ := Nat.exists_eq_succ_of_ne_zero hzero
        have hle := (removeFrom_sublist forms n t).length_le
        rw [← remove_cons_of_lengthOf_succ hn, hself, List.length_cons] at hle
        exact Nat.not_succ_le_self _ hle

/-! ## What is left was interrupted -/

/-- What is left of a text up to a character comes from the text up to that
character. -/
theorem exists_reduces_of_remove {form : Form} {t n z : Text} {last : Char}
    (h : remove [form] t = n ++ last :: z) :
    ∃ m, m ++ [last] <+: t ∧ form.Reduces m n := by
  induction hk : t.length using Nat.strong_induction_on generalizing t n with
  | _ k ih =>
      subst hk
      rcases remove_cases form t with rfl | ⟨q, rest, hq, ht, hlt, hremove⟩ |
        ⟨c, rest, rfl, -, hremove⟩
      · exact absurd h (by simp [remove, removeFrom])
      · rw [hremove] at h
        obtain ⟨m, hprefix, hreduces⟩ := ih _ hlt h rfl
        refine ⟨q ++ m, ?_, .drop hq hreduces⟩
        rw [ht, List.append_assoc, List.prefix_append_right_inj]
        exact hprefix
      · rw [hremove] at h
        cases n with
        | nil =>
            rw [List.nil_append] at h
            obtain ⟨rfl, -⟩ := List.cons.inj h
            exact ⟨[], List.prefix_iff_eq_append.mpr rfl, .nil⟩
        | cons d n =>
            rw [List.cons_append] at h
            obtain ⟨rfl, hrest⟩ := List.cons.inj h
            obtain ⟨m, hprefix, hreduces⟩ :=
              ih _ (Nat.lt_succ_self _) hrest rfl
            exact ⟨c :: m, List.cons_prefix_cons.mpr ⟨rfl, hprefix⟩,
              .keep c hreduces⟩

theorem Form.Reduces.eq_or_exists_esc {form : Form}
    (hintroducer : form.introducer.head? = some esc) {m n : Text}
    (h : form.Reduces m n) :
    m = n ∨ ∃ before behind, m = before ++ esc :: behind ∧ before <+: n := by
  induction h with
  | nil => exact .inl rfl
  | keep c _ ih =>
      rcases ih with rfl | ⟨before, behind, rfl, hbefore⟩
      · exact .inl rfl
      · exact .inr ⟨c :: before, behind, rfl,
          List.cons_prefix_cons.mpr ⟨rfl, hbefore⟩⟩
  | drop hq _ _ =>
      obtain ⟨parameters, last, rfl, -⟩ := hq
      obtain ⟨l, hl⟩ := List.head?_eq_some_iff.mp hintroducer
      rw [hl]
      exact .inr ⟨[], _, rfl, List.nil_prefix⟩

/-- A list that begins with another and goes on with a character begins with
that other, or the character is behind the first of it. -/
theorem prefix_of_prefix_append_cons {l s t : Text} {c : Char}
    (h : l <+: s ++ c :: t) (hs : s ≠ []) (hc : c ∉ l.tail) : l <+: s := by
  rcases Nat.lt_or_ge s.length l.length with hlt | hge
  · -- The list is longer, so the character stands in it, behind all of `s`.
    obtain ⟨r, rfl⟩ :=
      List.prefix_of_prefix_length_le (List.prefix_append s _) h
        (Nat.le_of_lt hlt)
    obtain ⟨d, s, rfl⟩ := List.exists_cons_of_ne_nil hs
    cases r with
    | nil => simp at hlt
    | cons e r =>
        rw [List.prefix_append_right_inj] at h
        obtain rfl := (List.cons_prefix_cons.mp h).1
        exact absurd (by simp) hc
  · exact List.prefix_of_prefix_length_le h (List.prefix_append s _) hge

namespace Form.TakesColors

variable {form : Form}

/-- A sequence has an escape character at its front and none behind. -/
theorem sequence_eq (h : form.TakesColors) {q : Text} (hq : form.IsSequence q) :
    ∃ n last, q = esc :: n ++ [last] ∧ esc ∉ n ++ [last] := by
  have ⟨parameters, last, heq, _⟩ := hq
  rw [h.introducer] at heq
  subst heq
  exact ⟨'[' :: parameters, last, rfl, h.foreign_esc.notMem_tail hq⟩

/-- A sequence that is left in a text was an interrupted one before. -/
theorem exists_interrupted_of_remove (h : form.TakesColors) {t q : Text}
    (hq : form.IsSequence q) (hin : q <:+: remove [form] t) :
    ∃ u, form.Interrupted u ∧ u <:+: t := by
  induction hk : t.length using Nat.strong_induction_on generalizing t with
  | _ k ih =>
      subst hk
      rcases remove_cases form t with rfl | ⟨s, rest, -, ht, hlt, hremove⟩ |
        ⟨c, rest, rfl, hzero, hremove⟩
      · have hpos := hq.length_pos
        rw [List.infix_nil.mp hin] at hpos
        cases hpos
      · rw [hremove] at hin
        obtain ⟨u, hu, huin⟩ := ih _ hlt hin rfl
        rw [ht]
        exact ⟨u, hu, huin.trans (List.suffix_append s rest).isInfix⟩
      · rw [hremove, List.infix_cons_iff] at hin
        rcases hin with ⟨z, hz⟩ | hin
        · -- The sequence begins where the text does, but not as a whole.
          obtain ⟨n, last, rfl, -⟩ := h.sequence_eq hq
          rw [List.cons_append, List.cons_append, List.append_assoc] at hz
          obtain ⟨rfl, hrest⟩ := List.cons.inj hz
          have hleft : remove [form] rest = n ++ last :: z := hrest.symm
          obtain ⟨m, hprefix, hreduces⟩ := exists_reduces_of_remove hleft
          have hu : esc :: m ++ [last] <+: esc :: rest :=
            List.cons_prefix_cons.mpr ⟨rfl, hprefix⟩
          refine ⟨_, ⟨esc, m, n, last, rfl, hreduces, ?_, hq⟩, hu.isInfix⟩
          rintro rfl
          exact Form.length_eq_zero_iff.mp hzero _ hq hu
        · obtain ⟨u, hu, huin⟩ := ih _ (Nat.lt_succ_self _) hin rfl
          exact ⟨u, hu, huin.trans (List.suffix_cons c rest).isInfix⟩

/-- What comes to a text without escape characters leaves just that text. -/
theorem remove_append_of_reduces (h : form.TakesColors) {m n : Text}
    (hreduces : form.Reduces m n) (hn : esc ∉ n) (z : Text) :
    remove [form] (m ++ z) = n ++ remove [form] z := by
  induction hreduces with
  | nil => rfl
  | @keep c m n _ ih =>
      rw [List.mem_cons, not_or] at hn
      have hplain : esc ∉ [c] := by simpa using hn.1
      have hkept := h.remove_plain_append hplain (m ++ z)
      rw [ih hn.2] at hkept
      exact hkept
  | drop hq _ ih =>
      rw [List.append_assoc, remove_sequence_append hq]
      exact ih hn

/-- An interrupted sequence is no sequence as it stands, nor does it begin with
one. -/
theorem length_interrupted (h : form.TakesColors) {m n : Text} {last : Char}
    (hreduces : form.Reduces m n) (hne : m ≠ n)
    (hq : form.IsSequence (esc :: n ++ [last])) (z : Text) :
    form.length (esc :: (m ++ z)) = 0 := by
  rw [Form.length_eq_zero_iff]
  intro s hs hprefix
  have hintroducer : form.introducer.head? = some esc := by
    rw [h.introducer]
    rfl
  rcases hreduces.eq_or_exists_esc hintroducer with heq |
    ⟨before, behind, rfl, hbefore⟩
  · exact hne heq
  · -- It would end before the first escape character, within the other.
    obtain ⟨k, final, rfl, hk⟩ := h.sequence_eq hs
    rw [List.append_assoc, List.cons_append, ← List.cons_append] at hprefix
    have hshort := prefix_of_prefix_append_cons hprefix
      (List.cons_ne_nil esc before) hk
    have hwithin : esc :: k ++ [final] <+: esc :: n :=
      hshort.trans (List.cons_prefix_cons.mpr ⟨rfl, hbefore⟩)
    have hle := hwithin.length_le
    obtain ⟨rest, hrest⟩ := hwithin.trans (List.prefix_append _ [last])
    have hwhole := hq.length_append []
    rw [List.append_nil, ← hrest, hs.length_append, hrest] at hwhole
    have hlonger : (esc :: n ++ [last]).length = (esc :: n).length + 1 :=
      List.length_append
    omega

/-- An interrupted sequence is whole when sequences are taken out. -/
theorem exists_sequence_of_interrupted (h : form.TakesColors) {t u : Text}
    (hu : form.Interrupted u) (hin : u <:+: t) :
    ∃ q, form.IsSequence q ∧ q <:+: remove [form] t := by
  obtain ⟨first, m, n, last, rfl, hreduces, hne, hq⟩ := hu
  obtain ⟨x, y, rfl⟩ := hin
  obtain ⟨k, final, heq, hk⟩ := h.sequence_eq hq
  obtain ⟨rfl, hlist⟩ := List.cons.inj heq
  have htail : esc ∉ n ++ [last] := by
    rw [show n ++ [last] = k ++ [final] from hlist]
    exact hk
  rw [List.mem_append, not_or] at htail
  have hapart : ∀ other ∈ [form], other.Apart x (esc :: (m ++ ([last] ++ y))) := by
    intro other hother
    rw [List.mem_singleton.mp hother]
    exact Form.apart_cons h.foreign_esc x _
  have hkept : remove [form] (esc :: (m ++ ([last] ++ y)))
      = esc :: remove [form] (m ++ ([last] ++ y)) :=
    remove_cons_of_length (h.length_interrupted hreduces hne hq _)
  refine ⟨_, hq, remove [form] x, remove [form] y, ?_⟩
  have hcut : x ++ (esc :: m ++ [last]) ++ y
      = x ++ esc :: (m ++ ([last] ++ y)) := by
    simp only [List.append_assoc, List.cons_append]
  rw [hcut, remove_append hapart, hkept,
    h.remove_append_of_reduces hreduces htail.1, h.remove_plain_append htail.2]
  simp only [List.append_assoc, List.cons_append]

/-- Sequences are taken out once and for all just if none is interrupted. -/
theorem remove_remove_eq_iff (h : form.TakesColors) (t : Text) :
    remove [form] (remove [form] t) = remove [form] t
      ↔ ∀ u, form.Interrupted u → ¬ u <:+: t := by
  rw [remove_eq_self_iff, List.forall_mem_singleton]
  constructor
  · intro hnone u hu hin
    obtain ⟨q, hq, hqin⟩ := h.exists_sequence_of_interrupted hu hin
    exact hnone q hq hqin
  · intro hnone q hq hin
    obtain ⟨u, hu, huin⟩ := h.exists_interrupted_of_remove hq hin
    exact hnone u hu huin

end Form.TakesColors

/-- Taking colours out of a text twice is taking them out once just if no colour
in the text is interrupted by others. -/
theorem stripColor_stripColor_eq_iff (t : Text) :
    stripColor (stripColor t) = stripColor t
      ↔ ∀ u, color.Interrupted u → ¬ u <:+: t :=
  color_takesColors.remove_remove_eq_iff t

/-- A colour in the midst of a colour: once it is out, the other is whole. -/
theorem stripColor_rejoins :
    let t := Text.ofString "\x1b[\x1b[0m0m"
    stripColor t = Text.ofString "\x1b[0m" ∧ stripColor (stripColor t) = []
      ∧ stripColor (stripColor t) ≠ stripColor t := by
  decide

end DiagnosticConsole.Escape
