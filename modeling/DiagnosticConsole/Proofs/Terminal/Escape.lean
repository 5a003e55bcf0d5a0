import DiagnosticConsole.Terminal.Color
import Mathlib.Data.List.Infix
import Mathlib.Data.List.TakeWhile

/-!
# Taking sequences out of a text

Sequences are taken out from left to right, so what is taken out of the front of
a text may depend on what comes behind it: a sequence can begin in the one and
end in the other. Where none does (`Form.Apart`, `Form.apart_iff`), the two parts can
be looked at one after the other (`remove_append`).

A sequence that begins a text is taken out whole. And nothing that begins in a
text ends behind an escape character, for a colour or control sequence has none
inside; so whatever a text ends in, even in half a sequence, it stays apart from
the sequence that turns its colour off. Together these give `remove_paint_of_apart`:
painting is undone by taking sequences out.
-/

namespace DiagnosticConsole.Escape

/-! ## The sequence at the front of a text -/

/-- What begins with an introducer has the length that its parameters give it, if
a final character follows them. -/
theorem Form.length_introducer_append (form : Form) (t : Text) :
    form.length (form.introducer ++ t)
      = match t.drop (t.takeWhile form.isParameter).length with
        | c :: _ =>
            if form.isFinal c then
              form.introducer.length + (t.takeWhile form.isParameter).length + 1
            else 0
        | [] => 0 := by
  rewrite [Form.length, if_pos (List.isPrefixOf_iff_prefix.mpr
    (List.prefix_append _ _)), List.drop_left]
  rfl

theorem Form.length_of_not_prefix {form : Form} {t : Text}
    (h : ¬ form.introducer <+: t) : form.length t = 0 := by
  rw [Form.length, if_neg]
  rwa [List.isPrefixOf_iff_prefix]

theorem Form.length_le (form : Form) (t : Text) : form.length t ≤ t.length := by
  by_cases h : form.introducer <+: t
  · obtain ⟨rest, rfl⟩ := h
    rw [form.length_introducer_append]
    split
    · next hdrop =>
        have hlength := congrArg List.length hdrop
        rw [List.length_drop, List.length_cons] at hlength
        rw [List.length_append]
        split
        · rw [Nat.add_assoc]
          exact Nat.add_le_add_left (by omega) _
        · exact Nat.zero_le _
    · exact Nat.zero_le _
  · rw [Form.length_of_not_prefix h]
    exact Nat.zero_le _

theorem lengthOf_le (forms : List Form) (t : Text) :
    lengthOf forms t ≤ t.length := by
  induction forms with
  | nil => exact Nat.zero_le _
  | cons form rest ih =>
      have hform := form.length_le t
      rw [lengthOf]
      split
      · exact ih
      · next n hn => omega

/-- A whole sequence of a kind. -/
def Form.IsSequence (form : Form) (q : Text) : Prop :=
  ∃ parameters last, q = form.introducer ++ parameters ++ [last]
    ∧ (∀ c ∈ parameters, form.isParameter c = true)
    ∧ form.isFinal last = true

/-- A sequence that a text begins with is taken for just what it is. -/
theorem Form.IsSequence.length_append {form : Form} {q : Text}
    (h : form.IsSequence q) (t : Text) : form.length (q ++ t) = q.length := by
  obtain ⟨parameters, last, rfl, hparameters, hlast⟩ := h
  have hbehind : ((last :: t).takeWhile form.isParameter) = [] :=
    List.takeWhile_cons_of_neg (by simp [form.final_not_parameter last hlast])
  rw [List.append_assoc, List.append_assoc, List.singleton_append,
    form.length_introducer_append, List.takeWhile_append_of_pos hparameters,
    hbehind, List.append_nil, List.drop_left]
  simp only [hlast, if_true, List.length_append, List.length_singleton]

theorem IsSequence.lengthOf_append {form : Form} {q : Text}
    (h : form.IsSequence q) (rest : List Form) (t : Text) :
    lengthOf (form :: rest) (q ++ t) = q.length := by
  have hlength := h.length_append t
  obtain ⟨parameters, last, rfl, -⟩ := h
  rw [lengthOf, hlength, List.length_append, List.length_singleton]

theorem Form.IsSequence.length_pos {form : Form} {q : Text}
    (h : form.IsSequence q) : 0 < q.length := by
  obtain ⟨parameters, last, rfl, -⟩ := h
  rw [List.length_append, List.length_singleton]
  exact Nat.succ_pos _

theorem Form.exists_sequence_of_length {form : Form} {t : Text}
    (h : form.length t ≠ 0) : ∃ q, form.IsSequence q ∧ q <+: t := by
  by_cases hintroducer : form.introducer <+: t
  · obtain ⟨rest, rfl⟩ := hintroducer
    have htake : rest.take (rest.takeWhile form.isParameter).length
        = rest.takeWhile form.isParameter :=
      (List.prefix_iff_eq_take.mp (List.takeWhile_prefix _)).symm
    have hcut := List.take_append_drop
      (rest.takeWhile form.isParameter).length rest
    rw [htake] at hcut
    rw [form.length_introducer_append] at h
    split at h
    · next c more hdrop =>
        rw [hdrop] at hcut
        split at h
        · next hfinal =>
            refine ⟨form.introducer ++ rest.takeWhile form.isParameter ++ [c],
              ⟨_, c, rfl, fun d hd => List.mem_takeWhile_imp hd, hfinal⟩,
              more, ?_⟩
            rw [List.append_assoc, List.append_assoc, List.singleton_append,
              hcut]
        · exact absurd rfl h
    · exact absurd rfl h
  · exact absurd (Form.length_of_not_prefix hintroducer) h

theorem Form.length_eq_zero_iff {form : Form} {t : Text} :
    form.length t = 0 ↔ ∀ q, form.IsSequence q → ¬ q <+: t := by
  constructor
  · intro hzero q hq hprefix
    obtain ⟨rest, rfl⟩ := hprefix
    have hpos := hq.length_pos
    rw [hq.length_append] at hzero
    omega
  · intro hnone
    by_contra hlength
    obtain ⟨q, hq, hprefix⟩ := Form.exists_sequence_of_length hlength
    exact hnone q hq hprefix

theorem lengthOf_eq_zero_iff {forms : List Form} {t : Text} :
    lengthOf forms t = 0 ↔ ∀ form ∈ forms, form.length t = 0 := by
  induction forms with
  | nil => exact iff_of_true rfl (List.forall_mem_nil _)
  | cons form rest ih =>
      rw [lengthOf, List.forall_mem_cons]
      split
      · next h => rw [ih, h, eq_self_iff_true, true_and]
      · next n h =>
          rw [h]
          exact iff_of_false (Nat.succ_ne_zero n) fun hall =>
            Nat.succ_ne_zero n hall.1

/-- A text begins with a sequence of the kinds just if one of them has one there. -/
theorem lengthOf_ne_zero_iff {forms : List Form} {t : Text} :
    lengthOf forms t ≠ 0 ↔ ∃ form ∈ forms, ∃ q, form.IsSequence q ∧ q <+: t := by
  rw [Ne, lengthOf_eq_zero_iff]
  simp only [Form.length_eq_zero_iff, not_forall, not_not, exists_prop]

/-! ## Two texts that stay apart -/

/-- No sequence of a kind that begins in the one text takes anything from the
other. -/
def Form.Apart (form : Form) (a b : Text) : Prop :=
  ∀ s, s <:+ a → s ≠ [] → form.length (s ++ b) = form.length s

/-- Two texts stay apart just if no sequence begins in the one and ends in the
other. -/
theorem Form.apart_iff {form : Form} {a b : Text} :
    form.Apart a b ↔ ∀ s r, s <:+ a → r <+: b → s ≠ [] → r ≠ [] →
      ¬ form.IsSequence (s ++ r) := by
  constructor
  · intro h s r hs hr hne hmore hq
    obtain ⟨rest, rfl⟩ := hr
    have hlength := h s hs hne
    rw [← List.append_assoc, hq.length_append, List.length_append] at hlength
    have hle := form.length_le s
    have hpos := List.length_pos_iff.mpr hmore
    omega
  · intro h s hs hne
    by_cases hzero : form.length s = 0
    · rw [hzero, Form.length_eq_zero_iff]
      intro q hq hprefix
      rcases Nat.lt_or_ge s.length q.length with hlt | hge
      · -- A sequence that goes on past `s` has its end in `b`.
        obtain ⟨r, rfl⟩ := List.prefix_of_prefix_length_le
          (List.prefix_append s b) hprefix (Nat.le_of_lt hlt)
        rw [List.prefix_append_right_inj] at hprefix
        refine h s r hs hprefix hne ?_ hq
        rintro rfl
        simp at hlt
      · have hinside := List.prefix_of_prefix_length_le hprefix
          (List.prefix_append s b) hge
        exact Form.length_eq_zero_iff.mp hzero q hq hinside
    · obtain ⟨q, hq, rest, rfl⟩ := Form.exists_sequence_of_length hzero
      rw [List.append_assoc, hq.length_append, hq.length_append]

theorem lengthOf_append_of_apart {forms : List Form} {a b s : Text}
    (h : ∀ form ∈ forms, form.Apart a b) (hs : s <:+ a) (hne : s ≠ []) :
    lengthOf forms (s ++ b) = lengthOf forms s := by
  induction forms with
  | nil => rfl
  | cons form rest ih =>
      rw [lengthOf, lengthOf, h form List.mem_cons_self s hs hne,
        ih fun form hform => h form (List.mem_cons_of_mem _ hform)]

theorem Form.Apart.tail {form : Form} {c : Char} {a b : Text}
    (h : form.Apart (c :: a) b) : form.Apart a b :=
  fun s hs => h s (hs.trans (List.suffix_cons c a))

/-- From two texts that stay apart sequences can be taken one after the other,
also if some characters of the first are still to be skipped. -/
theorem removeFrom_append {forms : List Form} {a b : Text} {skip : Nat}
    (h : ∀ form ∈ forms, form.Apart a b) (hskip : skip ≤ a.length) :
    removeFrom forms skip (a ++ b)
      = removeFrom forms skip a ++ remove forms b := by
  induction a generalizing skip with
  | nil =>
      obtain rfl := Nat.le_zero.mp hskip
      rfl
  | cons c a ih =>
      have htail : ∀ form ∈ forms, form.Apart a b :=
        fun form hform => (h form hform).tail
      cases skip with
      | succ skip => exact ih htail (Nat.le_of_succ_le_succ hskip)
      | zero =>
          have hlength :=
            lengthOf_append_of_apart h (List.suffix_refl _)
              (List.cons_ne_nil c a)
          have hle := lengthOf_le forms (c :: a)
          rw [List.cons_append] at hlength
          rw [List.cons_append, removeFrom, hlength, removeFrom]
          split
          · rw [ih htail (Nat.zero_le _), List.cons_append]
          · next n hn =>
              rw [hn, List.length_cons] at hle
              exact ih htail (Nat.le_of_succ_le_succ hle)

theorem remove_append {forms : List Form} {a b : Text}
    (h : ∀ form ∈ forms, form.Apart a b) :
    remove forms (a ++ b) = remove forms a ++ remove forms b :=
  removeFrom_append h (Nat.zero_le _)

theorem remove_cons_of_lengthOf {forms : List Form} {c : Char} {t : Text}
    (h : lengthOf forms (c :: t) = 0) :
    remove forms (c :: t) = c :: remove forms t := by
  rw [remove, removeFrom, h]
  rfl

theorem remove_cons_of_lengthOf_succ {forms : List Form} {c : Char} {t : Text}
    {n : Nat} (h : lengthOf forms (c :: t) = n + 1) :
    remove forms (c :: t) = removeFrom forms n t := by
  rw [remove, removeFrom, h]

theorem removeFrom_length_append (forms : List Form) (a b : Text) :
    removeFrom forms a.length (a ++ b) = remove forms b := by
  induction a with
  | nil => rfl
  | cons c a ih => exact ih

/-- A sequence at the front of a text is taken out. -/
theorem remove_sequence_append {form : Form} {q : Text} (h : form.IsSequence q)
    (rest : List Form) (t : Text) :
    remove (form :: rest) (q ++ t) = remove (form :: rest) t := by
  have hlength := IsSequence.lengthOf_append h rest t
  cases q with
  | nil =>
      obtain ⟨parameters, last, hq, -⟩ := h
      exact absurd hq (by simp)
  | cons c q =>
      rw [List.cons_append] at hlength ⊢
      rw [remove_cons_of_lengthOf_succ hlength]
      exact removeFrom_length_append _ q t

/-- What is left of a text is in it in this order. -/
theorem removeFrom_sublist (forms : List Form) (skip : Nat) (t : Text) :
    (removeFrom forms skip t).Sublist t := by
  induction t generalizing skip with
  | nil => cases skip <;> exact List.Sublist.refl _
  | cons c t ih =>
      cases skip with
      | succ skip => exact (ih skip).cons c
      | zero =>
          rw [removeFrom]
          split
          · exact (ih 0).cons_cons c
          · next n _ => exact (ih n).cons c

theorem remove_sublist (forms : List Form) (t : Text) :
    (remove forms t).Sublist t :=
  removeFrom_sublist forms 0 t

/-! ## What no sequence goes over -/

/-- A character that may begin a sequence of a kind, but is nowhere inside. -/
structure Form.Foreign (form : Form) (c : Char) : Prop where
  introducer : c ∉ form.introducer.tail
  parameter : form.isParameter c = false
  final : form.isFinal c = false

theorem Form.Foreign.notMem_tail {form : Form} {c d : Char} {q : Text}
    (h : form.Foreign c) (hq : form.IsSequence (d :: q)) : c ∉ q := by
  intro hc
  obtain ⟨parameters, last, heq, hparameters, hlast⟩ := hq
  have hmem : c ∈ form.introducer.tail ∨ c ∈ parameters ∨ c = last := by
    cases hintroducer : form.introducer with
    | nil =>
        rw [hintroducer] at heq
        have hin := List.mem_cons_of_mem d hc
        rw [heq] at hin
        simpa using hin
    | cons e rest =>
        rw [hintroducer, List.append_assoc, List.cons_append] at heq
        rw [(List.cons.inj heq).2] at hc
        simpa using hc
  rcases hmem with hmem | hmem | rfl
  · exact h.introducer hmem
  · exact absurd h.parameter (by simp [hparameters c hmem])
  · exact absurd h.final (by simp [hlast])

theorem Form.apart_cons {form : Form} {c : Char} (h : form.Foreign c)
    (a b : Text) : form.Apart a (c :: b) := by
  refine Form.apart_iff.mpr fun s r _ hr hne hmore hq => ?_
  obtain ⟨d, s, rfl⟩ := List.exists_cons_of_ne_nil hne
  obtain ⟨e, r, rfl⟩ := List.exists_cons_of_ne_nil hmore
  obtain rfl := (List.cons_prefix_cons.mp hr).1
  exact h.notMem_tail hq (List.mem_append_right s List.mem_cons_self)

/-- A text without a final character ends no sequence that begins before it. -/
theorem Form.apart_of_final {form : Form} {b : Text}
    (hb : ∀ c ∈ b, form.isFinal c = false) (a : Text) : form.Apart a b := by
  refine Form.apart_iff.mpr fun s r _ hr _ hne hq => ?_
  obtain ⟨parameters, last, heq, -, hfinal⟩ := hq
  have hlast := congrArg List.getLast? heq
  rw [List.getLast?_append_of_ne_nil s hne, List.getLast?_concat] at hlast
  rw [hb last (hr.subset (List.mem_of_getLast? hlast))] at hfinal
  cases hfinal

/-- Where there is no escape character, there is nothing to take out. -/
theorem remove_plain_append {forms : List Form}
    (hforms : ∀ form ∈ forms, form.introducer.head? = some esc) {a : Text}
    (ha : esc ∉ a) (b : Text) : remove forms (a ++ b) = a ++ remove forms b := by
  induction a with
  | nil => rfl
  | cons c a ih =>
      rw [List.mem_cons, not_or] at ha
      have hlength : lengthOf forms (c :: (a ++ b)) = 0 := by
        refine lengthOf_eq_zero_iff.mpr fun form hform =>
          Form.length_of_not_prefix fun hprefix => ?_
        obtain ⟨l, hl⟩ := List.head?_eq_some_iff.mp (hforms form hform)
        rw [hl] at hprefix
        exact ha.1 (List.cons_prefix_cons.mp hprefix).1
      rw [List.cons_append, remove_cons_of_lengthOf hlength, ih ha.2,
        List.cons_append]

/-! ## Painting -/

/-- The sequences of a kind that colours are made of. -/
structure Form.TakesColors (form : Form) : Prop where
  introducer : form.introducer = [esc, '[']
  parameter : ∀ c : Char, c.isDigit = true → form.isParameter c = true
  final : form.isFinal 'm' = true
  esc_parameter : form.isParameter esc = false
  esc_final : form.isFinal esc = false

theorem color_takesColors : color.TakesColors := by
  refine ⟨rfl, fun c hc => ?_, rfl, by decide, rfl⟩
  have hdigit : 0x30 ≤ c.toNat ∧ c.toNat < 0x30 + 10 := by
    rw [Char.isDigit, Bool.and_eq_true, decide_eq_true_eq, decide_eq_true_eq,
      ge_iff_le, UInt32.le_iff_toNat_le, UInt32.le_iff_toNat_le] at hc
    exact ⟨hc.1, Nat.lt_succ_of_le hc.2⟩
  have hany : Text.isDecimalDigit c = true :=
    List.any_eq_true.mpr ⟨0x30, List.mem_cons_self, by simp [hdigit]⟩
  simp [color, hany]

theorem echoed_takesColors : echoed.TakesColors :=
  ⟨rfl, fun c hc => by simp [echoed, hc], rfl, by decide, by decide⟩

namespace Form.TakesColors

variable {form : Form}

theorem foreign_esc (h : form.TakesColors) : form.Foreign esc :=
  ⟨by rw [h.introducer]; decide, h.esc_parameter, h.esc_final⟩

theorem isSequence_sgr (h : form.TakesColors) {parameters : String}
    (hdigits : (Text.ofString parameters).all Char.isDigit = true) :
    form.IsSequence (sgr parameters) := by
  refine ⟨Text.ofString parameters, 'm', ?_, fun c hc => ?_, h.final⟩
  · rw [h.introducer]
    rfl
  · exact h.parameter c (List.all_eq_true.mp hdigits c hc)

theorem isSequence_on (h : form.TakesColors) (color : Color) :
    form.IsSequence color.on := by
  cases color with
  | red | yellow | blue => exact h.isSequence_sgr (by decide)

theorem isSequence_off (h : form.TakesColors) : form.IsSequence Color.off :=
  h.isSequence_sgr (by decide)

/-- A painted text is the text, as far as it is left when sequences are taken
out, whatever it ends in; also if other kinds are taken out as well, as long as the
sequence behind the text ends none of theirs. -/
theorem remove_paint_of_apart (h : form.TakesColors) {rest : List Form}
    (hrest : ∀ other ∈ rest, ∀ t, other.Apart t Color.off) (palette : Palette)
    (color : Color) (t : Text) :
    remove (form :: rest) (palette.paint color t) = remove (form :: rest) t := by
  have hapart : ∀ other ∈ form :: rest, other.Apart t Color.off := by
    intro other hother
    rcases List.mem_cons.mp hother with rfl | hother
    · exact Form.apart_cons h.foreign_esc t _
    · exact hrest other hother t
  have hoff : remove (form :: rest) Color.off = [] := by
    have htaken := remove_sequence_append h.isSequence_off rest []
    rwa [List.append_nil] at htaken
  rw [Palette.paint]
  split
  · rfl
  · rw [List.append_assoc, remove_sequence_append (h.isSequence_on color),
      remove_append hapart, hoff, List.append_nil]

theorem remove_plain_append (h : form.TakesColors) {a : Text} (ha : esc ∉ a)
    (b : Text) : remove [form] (a ++ b) = a ++ remove [form] b := by
  refine Escape.remove_plain_append (fun other hother => ?_) ha b
  rw [List.mem_singleton.mp hother, h.introducer]
  rfl

theorem remove_plain (h : form.TakesColors) {a : Text} (ha : esc ∉ a) :
    remove [form] a = a := by
  have hremove := h.remove_plain_append ha []
  rwa [List.append_nil, show remove [form] [] = [] from rfl, List.append_nil]
    at hremove

/-- A painted text without escape characters is left, and its colour is not. -/
theorem remove_paint_append (h : form.TakesColors) (palette : Palette)
    (color : Color) {t : Text} (ht : esc ∉ t) (b : Text) :
    remove [form] (palette.paint color t ++ b) = t ++ remove [form] b := by
  rw [Palette.paint]
  split
  · exact h.remove_plain_append ht b
  · rw [List.append_assoc, List.append_assoc,
      remove_sequence_append (h.isSequence_on color), h.remove_plain_append ht,
      remove_sequence_append h.isSequence_off]

end Form.TakesColors

/-- Painting changes nothing but colours. -/
theorem stripColor_paint (palette : Palette) (color : Color) (t : Text) :
    stripColor (palette.paint color t) = stripColor t :=
  color_takesColors.remove_paint_of_apart (by simp) palette color t

end DiagnosticConsole.Escape
