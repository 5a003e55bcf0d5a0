import DiagnosticConsole.Evaluation.Candidates
import DiagnosticConsole.Proofs.Text.Pieces
import Mathlib.Computability.Language

/-!
# The dotted name in front of the cursor

A dotted name is an identifier and then, any number of times, a dot and an
identifier. The test for one reads a text once from the left, and it accepts that
language (`isDotted_iff`), whose texts are the identifiers put together with dots
(`mem_dottedNames_iff`).

The name that is looked for is followed by a dot which ends the text, but for a line
feed behind it. From one place on there is at most one such name, and from an
earlier place there is a longer one. So the first place that a search from the left
comes to gives the longest name (`longestDotted_iff_first`), and that is the one that is
found (`dottedName?_eq_some_iff`).
-/

namespace DiagnosticConsole.Evaluation

open Computability

/-! ## The language of dotted names -/

/-- The texts of one character that a test accepts. -/
def chars (p : Char → Bool) : Language Char := {t | ∃ c, p c = true ∧ t = [c]}

/-- A letter or an underscore, then word characters. -/
def identifiers : Language Char :=
  chars Text.isNameStart * (chars Text.isWordCharacter)∗

/-- An identifier behind a dot. -/
def parts : Language Char := chars (· = '.') * identifiers

/-- An identifier, then parts. -/
def dottedNames : Language Char := identifiers * parts∗

section Languages

variable {p : Char → Bool} {L M : Language Char} {c : Char} {t : Text}

theorem nil_notMem_chars_mul : [] ∉ chars p * L := by
  rw [Language.mem_mul]
  rintro ⟨_, ⟨c, -, rfl⟩, u, -, h⟩
  cases h

theorem cons_mem_chars_mul : c :: t ∈ chars p * L ↔ p c = true ∧ t ∈ L := by
  rw [Language.mem_mul]
  constructor
  · rintro ⟨_, ⟨d, hd, rfl⟩, u, hu, h⟩
    obtain ⟨rfl, rfl⟩ := List.cons.inj h
    exact ⟨hd, hu⟩
  · intro h
    exact ⟨[c], ⟨c, h.1, rfl⟩, t, h.2, rfl⟩

theorem mem_kstar_mul : t ∈ L∗ * M ↔ t ∈ M ∨ t ∈ L * (L∗ * M) := by
  rw [← mul_assoc, ← Language.mem_add]
  nth_rewrite 1 [← Language.one_add_self_mul_kstar_eq_kstar]
  rw [add_mul, one_mul]

theorem cons_mem_kstar : c :: t ∈ L∗ ↔ c :: t ∈ L * L∗ := by
  nth_rewrite 1 [← Language.one_add_self_mul_kstar_eq_kstar]
  rw [Language.mem_add, Language.mem_one]
  exact or_iff_right (List.cons_ne_nil c t)

end Languages

theorem isDottedFrom_iff (t : Text) :
    (isDottedFrom true t = true ↔ t ∈ (chars Text.isWordCharacter)∗ * parts∗)
      ∧ (isDottedFrom false t = true ↔ t ∈ dottedNames) := by
  have hdot : Text.isWordCharacter '.' = false := by decide
  induction t with
  | nil =>
      refine ⟨⟨fun _ => ?_, fun _ => rfl⟩, ⟨fun h => Bool.noConfusion h, fun h => ?_⟩⟩
      · exact ⟨[], Language.nil_mem_kstar _, [], Language.nil_mem_kstar _, rfl⟩
      · rw [dottedNames, identifiers, mul_assoc] at h
        exact absurd h nil_notMem_chars_mul
  | cons c t ih =>
      obtain ⟨hinside, houtside⟩ := ih
      constructor
      -- inside an identifier a dot can only begin a part: it is no word character
      · rw [mem_kstar_mul, cons_mem_chars_mul, cons_mem_kstar, parts, mul_assoc,
          cons_mem_chars_mul, ← parts, ← dottedNames, ← hinside, ← houtside,
          isDottedFrom]
        by_cases hc : c = '.'
        · simp [hc, hdot]
        · simp [hc]
      · rw [dottedNames, identifiers, mul_assoc, cons_mem_chars_mul, ← hinside,
          isDottedFrom, Bool.and_eq_true]

theorem isDotted_iff {t : Text} : isDotted t = true ↔ t ∈ dottedNames :=
  (isDottedFrom_iff t).2

/-! ## The identifiers of a dotted name -/

theorem dot_notMem_identifier {name : Text} (h : name ∈ identifiers) :
    '.' ∉ name := by
  have hword : ∀ rest ∈ (chars Text.isWordCharacter)∗, '.' ∉ rest := by
    intro rest hrest hdot
    induction rest with
    | nil => cases hdot
    | cons c rest ih =>
        rw [cons_mem_kstar, cons_mem_chars_mul] at hrest
        rcases List.mem_cons.mp hdot with rfl | hdot
        · exact absurd hrest.1 (by decide)
        · exact ih hrest.2 hdot
  cases name with
  | nil => exact fun hdot => nomatch hdot
  | cons c rest =>
      rw [identifiers, cons_mem_chars_mul] at h
      intro hdot
      rcases List.mem_cons.mp hdot with rfl | hdot
      · exact absurd h.1 (by decide)
      · exact hword rest h.2 hdot

theorem join_dot_cons (head : Text) (path : List Text) :
    Text.join ['.'] (head :: path) = head ++ (path.map ('.' :: ·)).flatten := by
  induction path generalizing head with
  | nil => exact (List.append_nil head).symm
  | cons name path ih =>
      rw [Text.join, ih]
      simp

theorem mem_kstar_parts_iff {t : Text} :
    t ∈ parts∗ ↔ ∃ path : List Text, (∀ name ∈ path, name ∈ identifiers)
      ∧ t = (path.map ('.' :: ·)).flatten := by
  rw [Language.mem_kstar]
  constructor
  · rintro ⟨pieces, rfl, h⟩
    induction pieces with
    | nil => exact ⟨[], (fun name hname => nomatch hname), rfl⟩
    | cons piece pieces ih =>
        obtain ⟨hpiece, hpieces⟩ := List.forall_mem_cons.mp h
        obtain ⟨path, hpath, hflatten⟩ := ih hpieces
        obtain ⟨_, ⟨c, hc, rfl⟩, name, hname, rfl⟩ := Language.mem_mul.mp hpiece
        obtain rfl := of_decide_eq_true hc
        refine ⟨name :: path, List.forall_mem_cons.mpr ⟨hname, hpath⟩, ?_⟩
        rw [List.flatten_cons, hflatten]
        rfl
  · rintro ⟨path, hpath, rfl⟩
    refine ⟨_, rfl, ?_⟩
    intro piece hpiece
    obtain ⟨name, hname, rfl⟩ := List.mem_map.mp hpiece
    exact cons_mem_chars_mul.mpr ⟨rfl, hpath name hname⟩

/-- A dotted name is identifiers with a dot between each two. -/
theorem mem_dottedNames_iff {t : Text} :
    t ∈ dottedNames ↔ ∃ head path, (∀ name ∈ head :: path, name ∈ identifiers)
      ∧ t = Text.join ['.'] (head :: path) := by
  rw [dottedNames, Language.mem_mul]
  constructor
  · rintro ⟨head, hhead, rest, hrest, rfl⟩
    obtain ⟨path, hpath, rfl⟩ := mem_kstar_parts_iff.mp hrest
    exact ⟨head, path, List.forall_mem_cons.mpr ⟨hhead, hpath⟩,
      (join_dot_cons head path).symm⟩
  · rintro ⟨head, path, hnames, rfl⟩
    obtain ⟨hhead, hpath⟩ := List.forall_mem_cons.mp hnames
    exact ⟨head, hhead, _, mem_kstar_parts_iff.mpr ⟨path, hpath, rfl⟩,
      (join_dot_cons head path).symm⟩

theorem pieces_join_identifiers {names : List Text} (hne : names ≠ [])
    (h : ∀ name ∈ names, name ∈ identifiers) :
    Text.pieces '.' (Text.join ['.'] names) = names := by
  have hdot : ∀ name ∈ names, '.' ∉ name := fun name hname =>
    dot_notMem_identifier (h name hname)
  rw [Text.pieces_eq_splitOn, Text.join_eq_intercalate,
    List.splitOn_intercalate '.' hdot hne]

/-! ## The longest one in front of the final dot -/

/-- A dotted name in front of a dot that ends a text, but for a line feed that may
be behind it. -/
structure EndsDotted (s d : Text) : Prop where
  isDotted : d ∈ dottedNames
  isSuffix : d ++ ['.'] <:+ s ∨ d ++ ['.', '\n'] <:+ s

/-- The longest dotted name in front of the final dot. -/
structure LongestDotted (s d : Text) : Prop where
  ends : EndsDotted s d
  longest : ∀ d', EndsDotted s d' → d'.length ≤ d.length

theorem beforeDot?_eq_some_iff {s head : Text} :
    beforeDot? s = some head ↔ s = head ++ ['.'] ∨ s = head ++ ['.', '\n'] := by
  have hreverse : ∀ t : Text, s = t ↔ s.reverse = t.reverse := fun t =>
    List.reverse_inj.symm
  rw [hreverse, hreverse, beforeDot?]
  simp only [List.reverse_append, List.reverse_cons, List.reverse_nil,
    List.nil_append, List.cons_append]
  split
  next rest hrest =>
    rw [hrest]
    simp [List.reverse_eq_iff]
  next rest hrest =>
    rw [hrest]
    simp [List.reverse_eq_iff]
  next h h' =>
    simp only [reduceCtorEq, false_iff, not_or]
    exact ⟨h _, h' _⟩

theorem endsDotted_iff {s d : Text} :
    EndsDotted s d
      ↔ ∃ head, beforeDot? s = some head ∧ d <:+ head ∧ d ∈ dottedNames := by
  constructor
  · rintro ⟨hd, ⟨front, hs⟩ | ⟨front, hs⟩⟩
    · refine ⟨front ++ d, ?_, List.suffix_append front d, hd⟩
      rw [beforeDot?_eq_some_iff, ← hs]
      exact .inl (List.append_assoc ..).symm
    · refine ⟨front ++ d, ?_, List.suffix_append front d, hd⟩
      rw [beforeDot?_eq_some_iff, ← hs]
      exact .inr (List.append_assoc ..).symm
  · rintro ⟨head, hhead, ⟨front, rfl⟩, hd⟩
    rcases beforeDot?_eq_some_iff.mp hhead with rfl | rfl
    · exact ⟨hd, .inl ⟨front, (List.append_assoc ..).symm⟩⟩
    · exact ⟨hd, .inr ⟨front, (List.append_assoc ..).symm⟩⟩

theorem endsDotted_iff_of_head {s head d : Text} (hhead : beforeDot? s = some head) :
    EndsDotted s d ↔ d <:+ head ∧ d ∈ dottedNames := by
  rw [endsDotted_iff]
  simp [hhead]

theorem mem_suffixes {t u : Text} : u ∈ suffixes t ↔ u <:+ t := by
  induction t with
  | nil => simp [suffixes]
  | cons c t ih => rw [suffixes, List.mem_cons, ih, List.suffix_cons_iff]

/-- The first suffix that a test accepts is the longest. -/
theorem longest_of_find?_suffixes {p : Text → Bool} {t d : Text}
    (h : (suffixes t).find? p = some d) :
    ∀ d', d' <:+ t → p d' = true → d'.length ≤ d.length := by
  induction t with
  | nil =>
      intro d' hd' _
      rw [List.suffix_nil.mp hd']
      exact Nat.zero_le _
  | cons c t ih =>
      rw [suffixes, List.find?_cons] at h
      cases hwhole : p (c :: t) with
      | true =>
          rw [hwhole] at h
          obtain rfl := Option.some.inj h
          exact fun d' hd' _ => hd'.length_le
      | false =>
          rw [hwhole] at h
          intro d' hd' haccepted
          rcases List.suffix_cons_iff.mp hd' with rfl | hd'
          · rw [hwhole] at haccepted
            cases haccepted
          · exact ih h d' hd' haccepted

theorem dottedName?_eq_none_iff {s : Text} :
    dottedName? s = none ↔ ∀ d, ¬ EndsDotted s d := by
  cases hhead : beforeDot? s with
  | none => simp [dottedName?, endsDotted_iff, hhead]
  | some head =>
      rw [dottedName?, hhead, Option.bind_some, List.find?_eq_none]
      simp only [mem_suffixes, isDotted_iff, endsDotted_iff_of_head hhead, not_and]

theorem longestDotted_of_dottedName? {s d : Text} (h : dottedName? s = some d) :
    LongestDotted s d := by
  cases hhead : beforeDot? s with
  | none =>
      rw [dottedName?, hhead] at h
      cases h
  | some head =>
      rw [dottedName?, hhead, Option.bind_some] at h
      have hd := mem_suffixes.mp (List.mem_of_find?_eq_some h)
      have hdotted := isDotted_iff.mp (List.find?_some h)
      refine ⟨(endsDotted_iff_of_head hhead).mpr ⟨hd, hdotted⟩, ?_⟩
      intro d' hd'
      obtain ⟨hd', hdotted'⟩ := (endsDotted_iff_of_head hhead).mp hd'
      exact longest_of_find?_suffixes h d' hd' (isDotted_iff.mpr hdotted')

theorem EndsDotted.eq_of_length_eq {s d d' : Text} (h : EndsDotted s d)
    (h' : EndsDotted s d') (hlength : d.length = d'.length) : d = d' := by
  obtain ⟨head, hhead, hd, -⟩ := endsDotted_iff.mp h
  obtain ⟨hd', -⟩ := (endsDotted_iff_of_head hhead).mp h'
  exact (List.suffix_of_suffix_length_le hd hd' hlength.le).eq_of_length hlength

theorem dottedName?_eq_some_iff {s d : Text} :
    dottedName? s = some d ↔ LongestDotted s d := by
  refine ⟨longestDotted_of_dottedName?, fun h => ?_⟩
  cases hfound : dottedName? s with
  | none => exact absurd h.ends (dottedName?_eq_none_iff.mp hfound d)
  | some u =>
      have hu := longestDotted_of_dottedName? hfound
      have hlength := Nat.le_antisymm (h.longest u hu.ends) (hu.longest d h.ends)
      rw [hu.ends.eq_of_length_eq h.ends hlength]

/-! ## The search from the left -/

/-- A text that is a dotted name and the final dot. -/
def Matches (t d : Text) : Prop :=
  d ∈ dottedNames ∧ (t = d ++ ['.'] ∨ t = d ++ ['.', '\n'])

/-- From one place on there is one match at most. -/
theorem Matches.unique {t d d' : Text} (h : Matches t d) (h' : Matches t d') :
    d = d' := by
  have hd := beforeDot?_eq_some_iff.mpr h.2
  rw [beforeDot?_eq_some_iff.mpr h'.2] at hd
  exact (Option.some.inj hd).symm

theorem endsDotted_iff_matches {s d : Text} :
    EndsDotted s d ↔ ∃ start, Matches (s.drop start) d := by
  constructor
  · rintro ⟨hd, ⟨front, rfl⟩ | ⟨front, rfl⟩⟩
    · exact ⟨front.length, hd, .inl List.drop_left⟩
    · exact ⟨front.length, hd, .inr List.drop_left⟩
  · rintro ⟨start, hd, hrest | hrest⟩
    · exact ⟨hd, .inl (hrest ▸ List.drop_suffix start s)⟩
    · exact ⟨hd, .inr (hrest ▸ List.drop_suffix start s)⟩

theorem Matches.exists_head {s d : Text} {start : Nat}
    (h : Matches (s.drop start) d) :
    ∃ head, beforeDot? s = some head ∧ head.length = start + d.length := by
  have hle : start ≤ s.length := by
    have hpos : 0 < (s.drop start).length := by
      rcases h.2 with hrest | hrest <;> simp [hrest]
    rw [List.length_drop] at hpos
    omega
  refine ⟨s.take start ++ d, beforeDot?_eq_some_iff.mpr ?_, ?_⟩
  · rw [List.append_assoc, List.append_assoc]
    rcases h.2 with hrest | hrest
    · exact .inl (by rw [← hrest, List.take_append_drop])
    · exact .inr (by rw [← hrest, List.take_append_drop])
  · rw [List.length_append, List.length_take, Nat.min_eq_left hle]

/-- All matches end in the same place, in front of the final dot. -/
theorem Matches.start_add_length {s d d' : Text} {start start' : Nat}
    (h : Matches (s.drop start) d) (h' : Matches (s.drop start') d') :
    start + d.length = start' + d'.length := by
  obtain ⟨head, hhead, hlength⟩ := h.exists_head
  obtain ⟨head', hhead', hlength'⟩ := h'.exists_head
  rw [hhead] at hhead'
  obtain rfl := Option.some.inj hhead'
  omega

/-- A search for a match that tries one place after the other from the left comes
to the longest name first. -/
theorem longestDotted_iff_first {s d : Text} :
    LongestDotted s d ↔ ∃ start, Matches (s.drop start) d
      ∧ ∀ earlier, earlier < start → ∀ d', ¬ Matches (s.drop earlier) d' := by
  constructor
  · intro h
    obtain ⟨start, hd⟩ := endsDotted_iff_matches.mp h.ends
    refine ⟨start, hd, ?_⟩
    intro earlier hearlier d' hd'
    have hle := h.longest d' (endsDotted_iff_matches.mpr ⟨earlier, hd'⟩)
    have hplaces := hd.start_add_length hd'
    omega
  · rintro ⟨start, hd, hfirst⟩
    refine ⟨endsDotted_iff_matches.mpr ⟨start, hd⟩, ?_⟩
    intro d' hd'
    obtain ⟨start', hd'⟩ := endsDotted_iff_matches.mp hd'
    have hplaces := hd.start_add_length hd'
    have hle : start ≤ start' := by
      by_contra hlt
      exact hfirst start' (by omega) d' hd'
    omega

end DiagnosticConsole.Evaluation
