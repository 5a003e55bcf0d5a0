import DiagnosticConsole.Proofs.Terminal.Stripping

/-!
# Where two texts meet

Sequences are taken out of a text from left to right, and whether one begins at some
place is only known further on. So when a text is put behind another, the first
one's share may change: half a sequence at its end may be made whole. Nothing else
can happen. Whatever junk of escape characters comes before, a sequence that is
not whole takes nothing out and skips nothing, and one that is whole is over before
the second text begins.

This makes the texts that may stand in front of any other just those no end of which
is half a sequence (`Form.forall_apart_iff`). And it is plain to see from its
characters whether a text is half a sequence, since an introducer may be followed
by any parameters at all and still be made whole (`Form.unfinished_iff`).
-/

namespace DiagnosticConsole.Escape

/-- A sequence of a kind that has begun and is not over. -/
def Form.Unfinished (form : Form) (s : Text) : Prop :=
  s ≠ [] ∧ ∃ q, form.IsSequence q ∧ s <+: q ∧ s ≠ q

/-- A text stays apart from every text behind it just if it ends in no unfinished
sequence. -/
theorem Form.forall_apart_iff {form : Form} {a : Text} :
    (∀ b, form.Apart a b) ↔ ∀ s, s <:+ a → ¬ form.Unfinished s := by
  constructor
  · rintro h s hs ⟨hne, q, hq, ⟨r, rfl⟩, hproper⟩
    have hmore : r ≠ [] := by
      rintro rfl
      exact hproper (List.append_nil s).symm
    exact Form.apart_iff.mp (h r) s r hs (List.prefix_refl r) hne hmore hq
  · intro h b
    refine Form.apart_iff.mpr fun s r hs _ hne hmore hq => ?_
    refine h s hs ⟨hne, s ++ r, hq, List.prefix_append s r, fun heq => ?_⟩
    exact hmore (List.self_eq_append_right.mp heq)

theorem remove_append_of_finished {forms : List Form} {a : Text}
    (h : ∀ form ∈ forms, ∀ s, s <:+ a → ¬ form.Unfinished s) (b : Text) :
    remove forms (a ++ b) = remove forms a ++ remove forms b :=
  remove_append fun form hform => Form.forall_apart_iff.mpr (h form hform) b

/-! ## Unfinished sequences by their characters -/

/-- What is unfinished is a part of the introducer, or the introducer and nothing but
parameters behind it. -/
theorem Form.unfinished_iff {form : Form} (hfinal : ∃ c, form.isFinal c = true)
    {s : Text} :
    form.Unfinished s ↔ s ≠ [] ∧ (s <+: form.introducer
      ∨ form.introducer <+: s
        ∧ (s.drop form.introducer.length).all form.isParameter = true) := by
  refine and_congr_right fun _ => ⟨?_, ?_⟩
  · rintro ⟨q, ⟨parameters, last, rfl, hparameters, -⟩, hprefix, hproper⟩
    have hshort := (List.prefix_concat_iff.mp hprefix).resolve_left hproper
    rcases Nat.le_total s.length form.introducer.length with hle | hge
    · exact .inl (List.prefix_of_prefix_length_le hshort
        (List.prefix_append _ parameters) hle)
    · obtain ⟨r, rfl⟩ := List.prefix_of_prefix_length_le
        (List.prefix_append form.introducer parameters) hshort hge
      rw [List.prefix_append_right_inj] at hshort
      refine .inr ⟨List.prefix_append _ r, ?_⟩
      rw [List.drop_left, List.all_eq_true]
      exact fun c hc => hparameters c (hshort.subset hc)
  · obtain ⟨last, hlast⟩ := hfinal
    rintro (⟨r, hr⟩ | ⟨⟨r, rfl⟩, hparameters⟩)
    · -- With the rest of the introducer it is whole without any parameters.
      refine ⟨form.introducer ++ [] ++ [last],
        ⟨[], last, rfl, List.forall_mem_nil _, hlast⟩,
        ⟨r ++ [last], by rw [← List.append_assoc, hr, List.append_nil]⟩, ?_⟩
      rintro rfl
      have hlength := congrArg List.length hr
      simp at hlength
    · rw [List.drop_left, List.all_eq_true] at hparameters
      exact ⟨_, ⟨r, last, rfl, hparameters, hlast⟩, List.prefix_append _ [last],
        fun heq => List.cons_ne_nil last [] (List.self_eq_append_right.mp heq)⟩

/-- A kind with a final character can be tested for. -/
@[reducible] def Form.decidableUnfinished (form : Form)
    (hfinal : ∃ c, form.isFinal c = true) : DecidablePred form.Unfinished :=
  fun _ => decidable_of_iff' _ (Form.unfinished_iff hfinal)

instance : DecidablePred color.Unfinished := color.decidableUnfinished ⟨'m', rfl⟩

instance : DecidablePred control.Unfinished :=
  control.decidableUnfinished ⟨'m', rfl⟩

instance : DecidablePred hyperlink.Unfinished :=
  hyperlink.decidableUnfinished ⟨bell, rfl⟩

/-- An unfinished colour is an escape character, or one with a bracket, semicolons
and digits. -/
theorem color_unfinished_iff {s : Text} :
    color.Unfinished s ↔ s = [esc]
      ∨ ∃ parameters, s = esc :: '[' :: parameters
        ∧ ∀ c ∈ parameters, c = ';' ∨ Text.isDecimalDigit c = true := by
  have hall : ∀ r : Text, r.all color.isParameter = true
      ↔ ∀ c ∈ r, c = ';' ∨ Text.isDecimalDigit c = true := by
    intro r
    simp [color]
  rw [Form.unfinished_iff ⟨'m', rfl⟩]
  constructor
  · rintro ⟨hne, hprefix | ⟨⟨r, rfl⟩, hparameters⟩⟩
    · obtain ⟨c, s, rfl⟩ := List.exists_cons_of_ne_nil hne
      obtain ⟨rfl, hrest⟩ := List.cons_prefix_cons.mp hprefix
      rcases List.prefix_concat_iff.mp (show s <+: [] ++ ['['] from hrest) with
        rfl | hnil
      · exact .inr ⟨[], rfl, List.forall_mem_nil _⟩
      · rw [List.prefix_nil.mp hnil]
        exact .inl rfl
    · rw [List.drop_left, hall] at hparameters
      exact .inr ⟨r, rfl, hparameters⟩
  · rintro (rfl | ⟨parameters, rfl, hparameters⟩)
    · exact ⟨List.cons_ne_nil _ _, .inl ⟨['['], rfl⟩⟩
    · exact ⟨List.cons_ne_nil _ _, .inr ⟨⟨parameters, rfl⟩,
        (hall parameters).mpr hparameters⟩⟩

/-! ## Part by part -/

/-- Sequences are taken out of a text part by part, wherever it is cut but within a
sequence. What is left is in the text in this order, and it is all of the text just
if there is no whole sequence in it. -/
theorem strips_part_by_part :
    (∀ s, color.Unfinished s ↔ s = [esc]
      ∨ ∃ parameters, s = esc :: '[' :: parameters
        ∧ ∀ c ∈ parameters, c = ';' ∨ Text.isDecimalDigit c = true)
    ∧ (∀ a b, (∀ s, s <:+ a → ¬ color.Unfinished s) →
      stripColor (a ++ b) = stripColor a ++ stripColor b)
    ∧ (∀ a b,
      (∀ s, s <:+ a → ¬ control.Unfinished s ∧ ¬ hyperlink.Unfinished s) →
      stripAll (a ++ b) = stripAll a ++ stripAll b)
    ∧ ∀ t, (stripColor t).Sublist t ∧ (stripAll t).Sublist t
      ∧ (stripColor t = t ↔ ∀ q, color.IsSequence q → ¬ q <:+: t)
      ∧ (stripAll t = t ↔
        ∀ q, control.IsSequence q ∨ hyperlink.IsSequence q → ¬ q <:+: t) := by
  refine ⟨fun s => color_unfinished_iff, fun a b h => ?_, fun a b h => ?_,
    fun t => ⟨remove_sublist _ t, remove_sublist _ t, ?_, ?_⟩⟩
  · exact remove_append_of_finished (List.forall_mem_singleton.mpr h) b
  · refine remove_append_of_finished (List.forall_mem_cons.mpr ⟨?_, ?_⟩) b
    · exact fun s hs => (h s hs).1
    · exact List.forall_mem_singleton.mpr fun s hs => (h s hs).2
  · rw [stripColor, remove_eq_self_iff, List.forall_mem_singleton]
  · rw [stripAll, remove_eq_self_iff, List.forall_mem_cons,
      List.forall_mem_singleton]
    simp only [or_imp, forall_and]

/-- A colour that is interrupted where no part of it is at the end: a hyperlink and
what is left of a colour in the first text, and the last of that colour in the
second. -/
theorem strips_part_by_part_interrupted :
    let a := Text.ofString "\x1b]8;;u\x07\x1b[3\x1b[0m1"
    let b := Text.ofString "m\x07\x1b[0m"
    (∀ s, s <:+ a →
        ¬ color.Unfinished s ∧ ¬ control.Unfinished s ∧ ¬ hyperlink.Unfinished s)
      ∧ stripColor (a ++ b) = stripColor a ++ stripColor b
      ∧ stripAll (a ++ b) = stripAll a ++ stripAll b
      ∧ stripColor a = Text.ofString "\x1b]8;;u\x07\x1b[31"
      ∧ stripAll a ++ stripAll b = Text.ofString "\x1b[31m\x07" := by
  intro a b
  have htails : ∀ s ∈ a.tails,
      ¬ color.Unfinished s ∧ ¬ control.Unfinished s ∧ ¬ hyperlink.Unfinished s := by
    decide +kernel
  have hends : ∀ s, s <:+ a →
      ¬ color.Unfinished s ∧ ¬ control.Unfinished s ∧ ¬ hyperlink.Unfinished s :=
    fun s hs => htails s ((List.mem_tails s a).mpr hs)
  obtain ⟨-, hcolor, hall, -⟩ := strips_part_by_part
  exact ⟨hends, hcolor a b fun s hs => (hends s hs).1,
    hall a b fun s hs => (hends s hs).2, by decide +kernel, by decide +kernel⟩

/-- Half a colour in front of the other half. -/
example :
    stripColor [esc] ++ stripColor (Text.ofString "[0m") = Text.ofString "\x1b[0m"
      ∧ stripColor (esc :: Text.ofString "[0m") = [] := by
  decide

end DiagnosticConsole.Escape
