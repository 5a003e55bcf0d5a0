import DiagnosticConsole.Proofs.Text.Ends
import DiagnosticConsole.Text.LineBreak
import DiagnosticConsole.Text.Newline

/-!
# Newlines and line breaks

Giving a text one spelling of the newline leaves no carriage return in it, and
nothing else is changed; so the texts that stay as they are, are those without a
carriage return. It is done in one pass, and comes to the same as replacing first the
pairs of both characters and then what is left of the one. Cutting a text into lines
loses nothing, and a line feed stands nowhere but at the end of a line.
-/

namespace DiagnosticConsole.Text

/-! ## One spelling of the newline -/

theorem carriageReturn_not_mem_normaliseNewlines (t : Text) :
    '\r' ∉ normaliseNewlines t := by
  induction t using normaliseNewlines.induct with
  | case1 => exact List.not_mem_nil
  | case2 rest ih =>
      rw [normaliseNewlines, List.mem_cons, not_or]
      exact ⟨by decide, ih⟩
  | case3 c rest hpair ih =>
      rw [normaliseNewlines.eq_3 c rest hpair, List.mem_cons, not_or]
      refine ⟨?_, ih⟩
      split
      · decide
      · next hc => exact Ne.symm hc

theorem normaliseNewlines_of_not_mem {t : Text} (h : '\r' ∉ t) :
    normaliseNewlines t = t := by
  induction t with
  | nil => rfl
  | cons c rest ih =>
      rw [List.mem_cons, not_or] at h
      have hc : c ≠ '\r' := Ne.symm h.1
      rw [normaliseNewlines.eq_3 c rest fun _ hcr => absurd hcr hc, if_neg hc,
        ih h.2]

theorem normaliseNewlines_eq_self_iff {t : Text} :
    normaliseNewlines t = t ↔ '\r' ∉ t := by
  refine ⟨fun h => ?_, normaliseNewlines_of_not_mem⟩
  rw [← h]
  exact carriageReturn_not_mem_normaliseNewlines t

theorem length_normaliseNewlines_le (t : Text) :
    (normaliseNewlines t).length ≤ t.length := by
  induction t using normaliseNewlines.induct with
  | case1 => exact Nat.le_refl 0
  | case2 rest ih =>
      rw [normaliseNewlines, List.length_cons, List.length_cons, List.length_cons]
      omega
  | case3 c rest hpair ih =>
      rw [normaliseNewlines.eq_3 c rest hpair, List.length_cons, List.length_cons]
      omega

/-- No characters come in but line feeds. -/
theorem mem_of_mem_normaliseNewlines {t : Text} {c : Char} (hc : c ≠ '\n')
    (h : c ∈ normaliseNewlines t) : c ∈ t := by
  induction t using normaliseNewlines.induct with
  | case1 => exact h
  | case2 rest ih =>
      rw [normaliseNewlines] at h
      have hrest := (List.mem_cons.mp h).resolve_left hc
      exact List.mem_cons_of_mem _ (List.mem_cons_of_mem _ (ih hrest))
  | case3 d rest hpair ih =>
      rw [normaliseNewlines.eq_3 d rest hpair] at h
      rcases List.mem_cons.mp h with heq | hrest
      · split at heq
        · exact absurd heq hc
        · rw [heq]
          exact List.mem_cons_self
      · exact List.mem_cons_of_mem _ (ih hrest)

/-- A text with the occurrences of another, which is not empty, replaced from the left
to the right, where `skip` characters still belong to one that was replaced. -/
def replaceFrom (old new : Text) : Nat → Text → Text
  | _, [] => []
  | skip + 1, _ :: rest => replaceFrom old new skip rest
  | 0, c :: rest =>
      if old.isPrefixOf (c :: rest) then
        new ++ replaceFrom old new (old.length - 1) rest
      else c :: replaceFrom old new 0 rest

/-- A text with the occurrences of another replaced. -/
def replaceAll (old new t : Text) : Text := replaceFrom old new 0 t

theorem replaceAll_carriageReturn_cons (c : Char) (t : Text) :
    replaceAll ['\r'] ['\n'] (c :: t)
      = (if c = '\r' then '\n' else c) :: replaceAll ['\r'] ['\n'] t := by
  by_cases hc : c = '\r'
  · subst hc
    rfl
  · have hprefix : List.isPrefixOf ['\r'] (c :: t) = false := by
      simpa [List.isPrefixOf] using Ne.symm hc
    rw [replaceAll, replaceFrom, hprefix, if_neg hc]
    rfl

/-- One spelling of the newline comes of two replacements: first the pairs, then the
carriage returns that are left. -/
theorem normaliseNewlines_eq_replaceAll (t : Text) :
    normaliseNewlines t
      = replaceAll ['\r'] ['\n'] (replaceAll ['\r', '\n'] ['\n'] t) := by
  induction t using normaliseNewlines.induct with
  | case1 => rfl
  | case2 rest ih =>
      have hpairs : replaceAll ['\r', '\n'] ['\n'] ('\r' :: '\n' :: rest)
          = '\n' :: replaceAll ['\r', '\n'] ['\n'] rest := rfl
      rw [normaliseNewlines, hpairs, replaceAll_carriageReturn_cons, ih]
      rfl
  | case3 c rest hpair ih =>
      have hpairs : replaceAll ['\r', '\n'] ['\n'] (c :: rest)
          = c :: replaceAll ['\r', '\n'] ['\n'] rest := by
        have hprefix : List.isPrefixOf ['\r', '\n'] (c :: rest) = false := by
          rw [Bool.eq_false_iff]
          intro h
          obtain ⟨more, hmore⟩ := List.isPrefixOf_iff_prefix.mp h
          obtain ⟨rfl, hrest⟩ := List.cons.inj hmore
          exact hpair more rfl hrest.symm
        rw [replaceAll, replaceFrom, hprefix]
        rfl
      rw [normaliseNewlines.eq_3 c rest hpair, hpairs, replaceAll_carriageReturn_cons, ih]

/-! ## Lines -/

/-- The lines of a text put together are the text. -/
theorem flatMap_whole_lines (t : Text) : (lines t).flatMap Line.whole = t := by
  induction t using lines.induct with
  | case1 => rfl
  | case2 rest ih => rw [lines, List.flatMap_cons, ih]; rfl
  | case3 c rest hpair hbreak ih =>
      rw [lines.eq_3 c rest hpair, if_pos hbreak, List.flatMap_cons, ih]
      rfl
  | case4 c rest hpair hbreak hnone ih =>
      rw [lines.eq_3 c rest hpair, if_neg hbreak, hnone]
      rw [hnone] at ih
      rw [← ih]
      rfl
  | case5 c rest hpair hbreak line more hmore ih =>
      rw [lines.eq_3 c rest hpair, if_neg hbreak, hmore]
      rw [hmore] at ih
      rw [← ih]
      rfl

/-- There is no line break in a line but the one that ends it. -/
theorem isLineBreak_eq_false {t : Text} {line : Line} (h : line ∈ lines t) :
    ∀ c ∈ line.content, isLineBreak c = false := by
  induction t using lines.induct generalizing line with
  | case1 => cases h
  | case2 rest ih =>
      rw [lines] at h
      rcases List.mem_cons.mp h with rfl | h
      · simp
      · exact ih h
  | case3 c rest hpair hbreak ih =>
      rw [lines.eq_3 c rest hpair, if_pos hbreak] at h
      rcases List.mem_cons.mp h with rfl | h
      · simp
      · exact ih h
  | case4 c rest hpair hbreak hnone ih =>
      rw [lines.eq_3 c rest hpair, if_neg hbreak, hnone] at h
      rw [List.mem_singleton.mp h]
      simpa using hbreak
  | case5 c rest hpair hbreak first more hmore ih =>
      rw [lines.eq_3 c rest hpair, if_neg hbreak, hmore] at h
      rw [hmore] at ih
      rcases List.mem_cons.mp h with rfl | h
      · rw [List.forall_mem_cons]
        exact ⟨by simpa using hbreak, ih List.mem_cons_self⟩
      · exact ih (List.mem_cons_of_mem _ h)

theorem newline_not_mem_lineContents {t line : Text}
    (h : line ∈ lineContents t) : '\n' ∉ line := by
  obtain ⟨whole, hwhole, rfl⟩ := List.mem_map.mp h
  intro hmem
  exact absurd (isLineBreak_eq_false hwhole '\n' hmem) (by decide)

theorem newline_not_mem_dropLast_cons {c : Char} {t : Text} (hc : c ≠ '\n')
    (h : '\n' ∉ t.dropLast) : '\n' ∉ (c :: t).dropLast := by
  cases t with
  | nil => exact List.not_mem_nil
  | cons d rest =>
      rw [List.dropLast_cons_cons, List.mem_cons, not_or]
      exact ⟨Ne.symm hc, h⟩

/-- Before its last character a line has no line feed. -/
theorem newline_not_mem_dropLast {t : Text} {line : Line} (h : line ∈ lines t) :
    '\n' ∉ line.whole.dropLast := by
  have hbreaks : isLineBreak '\n' = true := rfl
  induction t using lines.induct generalizing line with
  | case1 => cases h
  | case2 rest ih =>
      rw [lines] at h
      rcases List.mem_cons.mp h with rfl | h
      · decide
      · exact ih h
  | case3 c rest hpair hbreak ih =>
      rw [lines.eq_3 c rest hpair, if_pos hbreak] at h
      rcases List.mem_cons.mp h with rfl | h
      · exact List.not_mem_nil
      · exact ih h
  | case4 c rest hpair hbreak hnone ih =>
      rw [lines.eq_3 c rest hpair, if_neg hbreak, hnone] at h
      rw [List.mem_singleton.mp h]
      exact List.not_mem_nil
  | case5 c rest hpair hbreak first more hmore ih =>
      rw [lines.eq_3 c rest hpair, if_neg hbreak, hmore] at h
      rcases List.mem_cons.mp h with rfl | h
      · have hc : c ≠ '\n' := fun heq => hbreak (heq ▸ hbreaks)
        refine newline_not_mem_dropLast_cons hc (ih ?_)
        rw [hmore]
        exact List.mem_cons_self
      · refine ih ?_
        rw [hmore]
        exact List.mem_cons_of_mem _ h

theorem dropWhileEnd_newline_of_not_mem {t : Text} (h : '\n' ∉ t) :
    dropWhileEnd (· = '\n') t = t := by
  rcases t.eq_nil_or_concat with rfl | ⟨s, c, rfl⟩
  · rfl
  · rw [List.concat_eq_append] at h ⊢
    rw [List.mem_append, List.mem_singleton, not_or] at h
    exact dropWhileEnd_concat_of_neg (by simp [Ne.symm h.2]) s

/-- A line feed that is the only one of a line can be taken off its end and put
back. -/
theorem dropWhileEnd_newline_append {t : Text} (h : '\n' ∉ t.dropLast) :
    dropWhileEnd (· = '\n') t ++ (if t.getLast? = some '\n' then ['\n'] else [])
      = t := by
  rcases t.eq_nil_or_concat with rfl | ⟨s, c, rfl⟩
  · rfl
  · rw [List.concat_eq_append] at h ⊢
    rw [List.dropLast_concat] at h
    rw [List.getLast?_concat]
    by_cases hc : c = '\n'
    · rw [if_pos (congrArg some hc), hc, dropWhileEnd_concat (by simp),
        dropWhileEnd_newline_of_not_mem h]
    · rw [if_neg fun heq => hc (Option.some.inj heq), List.append_nil,
        dropWhileEnd_concat_of_neg (by simpa using hc)]

end DiagnosticConsole.Text
