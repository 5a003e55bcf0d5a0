import DiagnosticConsole.Proofs.Evaluation.Candidates
import Mathlib.Data.List.DropRight

/-!
# What stands in front of a dotted name

The search for a dotted name in front of the cursor takes as much as is one. What is
left in front of it may still be a part of the same expression: a call with a dot
behind it, say, or a letter that is not English. The candidates are then those of
whatever is called like the first part of the name.

So it matters which texts can be left in front. They are the texts with no identifier
at their end and none in front of a dot at their end, for those would have gone into
the name (`longestDotted_append_iff`). An identifier at the end of a text is no more
than a name start among the last word characters (`exists_identifier_suffix_iff`), and
this tells by the characters alone when a name that is found is only a tail.
-/

namespace DiagnosticConsole

namespace Evaluation

open Computability

/-! ## Identifiers by their characters -/

theorem mem_kstar_chars_iff {p : Char → Bool} {t : Text} :
    t ∈ (chars p)∗ ↔ ∀ c ∈ t, p c = true := by
  induction t with
  | nil => exact iff_of_true (Language.nil_mem_kstar _) (List.forall_mem_nil _)
  | cons c t ih => rw [cons_mem_kstar, cons_mem_chars_mul, ih, List.forall_mem_cons]

theorem mem_identifiers_iff {name : Text} :
    name ∈ identifiers ↔ ∃ c rest, name = c :: rest ∧ Text.isNameStart c = true
      ∧ ∀ d ∈ rest, Text.isWordCharacter d = true := by
  cases name with
  | nil => simp [identifiers, nil_notMem_chars_mul]
  | cons c rest =>
      rw [identifiers, cons_mem_chars_mul, mem_kstar_chars_iff]
      constructor
      · intro h
        exact ⟨c, rest, rfl, h⟩
      · rintro ⟨_, _, heq, h⟩
        obtain ⟨rfl, rfl⟩ := List.cons.inj heq
        exact h

theorem isWordCharacter_of_isNameStart {c : Char} (h : Text.isNameStart c = true) :
    Text.isWordCharacter c = true := by
  have hletters : ∀ n < 128, (Char.ofNat n).isAlpha = true →
      Text.alphanumeric.contains n = true := by
    decide +kernel
  rw [Text.isNameStart, Bool.or_eq_true] at h
  rw [Text.isWordCharacter, Bool.or_eq_true]
  rcases h with halpha | hunderscore
  · have hascii : c.toNat < 128 := by
      rcases (Bool.or_eq_true _ _).mp halpha with hupper | hlower
      · have hbounds : 'A'.val ≤ c.val ∧ c.val ≤ 'Z'.val := of_decide_eq_true hupper
        exact Nat.lt_of_le_of_lt (UInt32.le_iff_toNat_le.mp hbounds.2) (by decide)
      · have hbound : c.val ≤ 'z'.val :=
          of_decide_eq_true ((Bool.and_eq_true _ _).mp hlower).2
        exact Nat.lt_of_le_of_lt (UInt32.le_iff_toNat_le.mp hbound) (by decide)
    refine .inr (hletters c.toNat hascii ?_)
    rw [Char.ofNat_toNat]
    exact halpha
  · exact .inl hunderscore

theorem forall_isWordCharacter_of_identifier {name : Text} (h : name ∈ identifiers) :
    ∀ c ∈ name, Text.isWordCharacter c = true := by
  obtain ⟨c, rest, rfl, hc, hrest⟩ := mem_identifiers_iff.mp h
  exact List.forall_mem_cons.mpr ⟨isWordCharacter_of_isNameStart hc, hrest⟩

theorem append_mem_identifiers {name more : Text} (h : name ∈ identifiers)
    (hmore : ∀ c ∈ more, Text.isWordCharacter c = true) : name ++ more ∈ identifiers := by
  obtain ⟨c, rest, rfl, hc, hrest⟩ := mem_identifiers_iff.mp h
  refine mem_identifiers_iff.mpr ⟨c, rest ++ more, rfl, hc, ?_⟩
  exact List.forall_mem_append.mpr ⟨hrest, hmore⟩

/-! ## Putting something in front of a dotted name -/

section Front

variable {name d u front : Text}

theorem identifier_append_mem_dottedNames (hname : name ∈ identifiers)
    (hd : d ∈ dottedNames) : name ++ d ∈ dottedNames := by
  obtain ⟨head, path, hnames, rfl⟩ := mem_dottedNames_iff.mp hd
  obtain ⟨hhead, hpath⟩ := List.forall_mem_cons.mp hnames
  have hjoined := append_mem_identifiers hname (forall_isWordCharacter_of_identifier hhead)
  refine mem_dottedNames_iff.mpr
    ⟨name ++ head, path, List.forall_mem_cons.mpr ⟨hjoined, hpath⟩, ?_⟩
  rw [join_dot_cons, join_dot_cons, List.append_assoc]

theorem identifier_dot_append_mem_dottedNames (hname : name ∈ identifiers)
    (hd : d ∈ dottedNames) : name ++ ['.'] ++ d ∈ dottedNames := by
  obtain ⟨head, path, hnames, rfl⟩ := mem_dottedNames_iff.mp hd
  exact mem_dottedNames_iff.mpr
    ⟨name, head :: path, List.forall_mem_cons.mpr ⟨hname, hnames⟩, rfl⟩

theorem exists_identifier_suffix_of_dotted (h : u ∈ dottedNames) :
    ∃ name ∈ identifiers, name <:+ u := by
  obtain ⟨head, path, hnames, rfl⟩ := mem_dottedNames_iff.mp h
  clear h
  induction path generalizing head with
  | nil => exact ⟨head, hnames head List.mem_cons_self, List.suffix_rfl⟩
  | cons name path ih =>
      obtain ⟨-, hrest⟩ := List.forall_mem_cons.mp hnames
      obtain ⟨last, hlast, hsuffix⟩ := ih name hrest
      exact ⟨last, hlast, hsuffix.trans (List.suffix_append _ _)⟩

/-- A dot can only stand behind an identifier and in front of a dotted name. -/
theorem isDottedFrom_append_dot (inside : Bool) (u t : Text) :
    isDottedFrom inside (u ++ '.' :: t)
      = (isDottedFrom inside u && isDottedFrom false t) := by
  have hdot : Text.isNameStart '.' = false := by decide
  induction u generalizing inside with
  | nil => cases inside <;> simp [isDottedFrom, hdot]
  | cons c u ih =>
      cases inside with
      | false => rw [List.cons_append, isDottedFrom, isDottedFrom, ih, Bool.and_assoc]
      | true =>
          rw [List.cons_append, isDottedFrom, isDottedFrom, ih, ih]
          split
          · rfl
          · rw [Bool.and_assoc]

/-- The beginning of a dotted name is one, up to anything but a dot. -/
theorem isDottedFrom_concat {inside : Bool} {c : Char} (hc : c ≠ '.') {t : Text}
    (h : isDottedFrom inside (u ++ c :: t) = true) :
    isDottedFrom inside (u ++ [c]) = true := by
  induction u generalizing inside with
  | nil =>
      cases inside with
      | false =>
          rw [List.nil_append, isDottedFrom, Bool.and_eq_true] at h
          rw [List.nil_append, isDottedFrom, h.1]
          rfl
      | true =>
          rw [List.nil_append, isDottedFrom, if_neg hc, Bool.and_eq_true] at h
          rw [List.nil_append, isDottedFrom, if_neg hc, h.1]
          rfl
  | cons b u ih =>
      cases inside with
      | false =>
          rw [List.cons_append, isDottedFrom, Bool.and_eq_true] at h ⊢
          exact ⟨h.1, ih h.2⟩
      | true =>
          rw [List.cons_append, isDottedFrom] at h ⊢
          by_cases hb : b = '.'
          · rw [if_pos hb] at h ⊢
            exact ih h
          · rw [if_neg hb, Bool.and_eq_true] at h ⊢
            exact ⟨h.1, ih h.2⟩

/-- What is at the end of a text and makes a dotted name behind it longer: an
identifier, or one with a dot behind it. -/
def Extends (front : Text) : Prop :=
  ∃ name ∈ identifiers, name <:+ front ∨ name ++ ['.'] <:+ front

theorem extends_of_append_mem_dottedNames (hne : u ≠ []) (h : u ++ d ∈ dottedNames) :
    Extends u := by
  rcases u.eq_nil_or_concat with hnil | ⟨v, c, rfl⟩
  · exact absurd hnil hne
  rw [List.concat_eq_append] at h ⊢
  rw [List.append_assoc, List.singleton_append, ← isDotted_iff, isDotted] at h
  by_cases hc : c = '.'
  · subst hc
    rw [isDottedFrom_append_dot, Bool.and_eq_true] at h
    obtain ⟨name, hname, v', rfl⟩ :=
      exists_identifier_suffix_of_dotted (isDotted_iff.mp h.1)
    exact ⟨name, hname, .inr ⟨v', (List.append_assoc ..).symm⟩⟩
  · have hdotted := isDotted_iff.mp (isDottedFrom_concat hc h)
    obtain ⟨name, hname, hsuffix⟩ := exists_identifier_suffix_of_dotted hdotted
    exact ⟨name, hname, .inl hsuffix⟩

theorem Extends.mono (h : Extends u) (hsuffix : u <:+ front) : Extends front := by
  obtain ⟨name, hname, h | h⟩ := h
  · exact ⟨name, hname, .inl (h.trans hsuffix)⟩
  · exact ⟨name, hname, .inr (h.trans hsuffix)⟩

/-- A text makes the dotted name behind it longer exactly if some end of it does. -/
theorem extends_iff (hd : d ∈ dottedNames) :
    Extends front ↔ ∃ u, u ≠ [] ∧ u <:+ front ∧ u ++ d ∈ dottedNames := by
  constructor
  · rintro ⟨name, hname, hsuffix⟩
    have hne : name ≠ [] := by
      rintro rfl
      exact nil_notMem_chars_mul hname
    rcases hsuffix with hsuffix | hsuffix
    · exact ⟨name, hne, hsuffix, identifier_append_mem_dottedNames hname hd⟩
    · exact ⟨name ++ ['.'], List.append_ne_nil_of_left_ne_nil hne _, hsuffix,
        identifier_dot_append_mem_dottedNames hname hd⟩
  · rintro ⟨u, hne, hsuffix, hdotted⟩
    exact (extends_of_append_mem_dottedNames hne hdotted).mono hsuffix

/-- Behind a text that makes no dotted name longer, and only there, a dotted name is
the longest one. -/
theorem longestDotted_append_iff {s : Text} (hd : d ∈ dottedNames)
    (hs : beforeDot? s = some (front ++ d)) :
    LongestDotted s d ↔ ¬ Extends front := by
  rw [extends_iff hd]
  constructor
  · rintro h ⟨u, hne, ⟨rest, rfl⟩, hdotted⟩
    have hends : EndsDotted s (u ++ d) := by
      rw [endsDotted_iff_of_head hs, List.append_assoc]
      exact ⟨List.suffix_append _ _, hdotted⟩
    have hlength := List.length_pos_of_ne_nil hne
    have hle := h.longest _ hends
    rw [List.length_append] at hle
    omega
  · intro h
    refine ⟨(endsDotted_iff_of_head hs).mpr ⟨List.suffix_append _ _, hd⟩, ?_⟩
    intro d' hd'
    obtain ⟨hsuffix, hdotted⟩ := (endsDotted_iff_of_head hs).mp hd'
    -- of two ends of a text one is an end of the other
    rcases List.suffix_or_suffix_of_suffix hsuffix (List.suffix_append front d) with
      hshort | ⟨u, rfl⟩
    · exact hshort.length_le
    · have hu : u <:+ front := ((List.suffix_append_inj_of_length_eq rfl).mp hsuffix).1
      by_contra hlong
      have hne : u ≠ [] := by
        rintro rfl
        exact hlong (Nat.le_refl _)
      exact h ⟨u, hne, hu, hdotted⟩

end Front

/-! ## The last word of a text -/

/-- The word characters at the end of a text. -/
def lastWord (t : Text) : Text := t.rtakeWhile Text.isWordCharacter

theorem lastWord_append {front word : Text}
    (h : ∀ c ∈ word, Text.isWordCharacter c = true) :
    lastWord (front ++ word) = lastWord front ++ word := by
  have hreverse : ∀ c ∈ word.reverse, Text.isWordCharacter c = true := by
    intro c hc
    exact h c (List.mem_reverse.mp hc)
  simp only [lastWord, List.rtakeWhile, List.reverse_append]
  rw [List.takeWhile_append_of_pos hreverse, List.reverse_append, List.reverse_reverse]

theorem lastWord_concat_dot (t : Text) : lastWord (t ++ ['.']) = [] :=
  List.rtakeWhile_concat_neg _ _ _ (by decide)

theorem exists_identifier_suffix_iff {t : Text} :
    (∃ name ∈ identifiers, name <:+ t)
      ↔ ∃ c ∈ lastWord t, Text.isNameStart c = true := by
  constructor
  · rintro ⟨name, hname, front, rfl⟩
    rw [lastWord_append (forall_isWordCharacter_of_identifier hname)]
    obtain ⟨c, rest, rfl, hc, -⟩ := mem_identifiers_iff.mp hname
    exact ⟨c, List.mem_append_right _ List.mem_cons_self, hc⟩
  · rintro ⟨c, hc, hstart⟩
    obtain ⟨front, rest, hsplit⟩ := List.append_of_mem hc
    have hsuffix : c :: rest <:+ lastWord t := by
      rw [hsplit]
      exact List.suffix_append _ _
    refine ⟨c :: rest, mem_identifiers_iff.mpr ⟨c, rest, rfl, hstart, ?_⟩,
      hsuffix.trans (List.rtakeWhile_suffix _ _)⟩
    intro b hb
    exact List.mem_rtakeWhile_imp (hsuffix.mem (List.mem_cons_of_mem c hb))

/-- A text that ends in the middle of an expression, and in a place from which no
dotted name can be read on to the left: behind a word with no name start in it, or
behind a dot with no such start in the word in front of it. -/
inductive CutOff : Text → Prop where
  | word {t : Text} (hne : lastWord t ≠ [])
      (h : ∀ c ∈ lastWord t, Text.isNameStart c = false) : CutOff t
  | dot {t : Text} (h : ∀ c ∈ lastWord t, Text.isNameStart c = false) :
      CutOff (t ++ ['.'])

theorem no_identifier_suffix_iff {t : Text} :
    (¬ ∃ name ∈ identifiers, name <:+ t)
      ↔ ∀ c ∈ lastWord t, Text.isNameStart c = false := by
  rw [exists_identifier_suffix_iff]
  simp only [not_exists, not_and, Bool.not_eq_true]

theorem not_extends_concat_dot_iff {t : Text} :
    ¬ Extends (t ++ ['.']) ↔ ∀ c ∈ lastWord t, Text.isNameStart c = false := by
  rw [← no_identifier_suffix_iff, not_iff_not]
  constructor
  · rintro ⟨name, hname, h | h⟩
    -- no identifier ends in a dot
    · obtain ⟨c, hc, -⟩ := exists_identifier_suffix_iff.mp ⟨name, hname, h⟩
      rw [lastWord_concat_dot] at hc
      cases hc
    · exact ⟨name, hname, ((List.suffix_append_inj_of_length_eq rfl).mp h).1⟩
  · rintro ⟨name, hname, rest, rfl⟩
    exact ⟨name, hname, .inr ⟨rest, (List.append_assoc ..).symm⟩⟩

theorem not_extends_iff_of_lastWord {t : Text} (h : lastWord t ≠ []) :
    ¬ Extends t ↔ ∀ c ∈ lastWord t, Text.isNameStart c = false := by
  rw [← no_identifier_suffix_iff, not_iff_not]
  constructor
  · rintro ⟨name, hname, hsuffix | ⟨rest, rfl⟩⟩
    · exact ⟨name, hname, hsuffix⟩
    · rw [← List.append_assoc, lastWord_concat_dot] at h
      exact absurd rfl h
  · rintro ⟨name, hname, hsuffix⟩
    exact ⟨name, hname, .inl hsuffix⟩

theorem lastWord_concat_ne_nil_iff {front : Text} {c : Char} :
    lastWord (front ++ [c]) ≠ [] ↔ Text.isWordCharacter c = true := by
  rw [lastWord, List.rtakeWhile_concat]
  split
  · next hc => exact iff_of_true (List.concat_ne_nil c _) hc
  · next hc => exact iff_of_false (fun h => h rfl) hc

theorem cutOff_iff {t : Text} :
    CutOff t ↔ (∃ front c, (c = '.' ∨ Text.isWordCharacter c = true)
      ∧ t = front ++ [c]) ∧ ¬ Extends t := by
  constructor
  · intro h
    cases h with
    | word hne h =>
        rcases t.eq_nil_or_concat with rfl | ⟨front, c, rfl⟩
        · exact absurd rfl hne
        rw [List.concat_eq_append] at hne h ⊢
        exact ⟨⟨front, c, .inr (lastWord_concat_ne_nil_iff.mp hne), rfl⟩,
          (not_extends_iff_of_lastWord hne).mpr h⟩
    | @dot t h =>
        exact ⟨⟨t, '.', .inl rfl, rfl⟩, not_extends_concat_dot_iff.mpr h⟩
  · rintro ⟨⟨front, c, rfl | hc, rfl⟩, h⟩
    · exact .dot (not_extends_concat_dot_iff.mp h)
    · have hne : lastWord (front ++ [c]) ≠ [] := lastWord_concat_ne_nil_iff.mpr hc
      exact .word hne ((not_extends_iff_of_lastWord hne).mp h)

/-! ## A name that is only a tail -/

/-- The dotted name that is found in front of the cursor has a dot or a word character
in front of it: it is only the tail of an expression. -/
structure FindsTail (s head : Text) (path : List Text) : Prop where
  names : ∀ name ∈ head :: path, name ∈ identifiers
  longest : LongestDotted s (Text.join ['.'] (head :: path))
  behind : ∃ front c, (c = '.' ∨ Text.isWordCharacter c = true)
    ∧ beforeDot? s = some (front ++ [c] ++ Text.join ['.'] (head :: path))

theorem findsTail_iff {s head : Text} {path : List Text} :
    FindsTail s head path
      ↔ (∀ name ∈ head :: path, name ∈ identifiers)
        ∧ ∃ front, CutOff front
          ∧ (s = front ++ Text.join ['.'] (head :: path) ++ ['.']
            ∨ s = front ++ Text.join ['.'] (head :: path) ++ ['.', '\n']) := by
  simp only [← beforeDot?_eq_some_iff, cutOff_iff]
  constructor
  · rintro ⟨hnames, hlongest, front, c, hc, hs⟩
    have hd := mem_dottedNames_iff.mpr ⟨head, path, hnames, rfl⟩
    exact ⟨hnames, front ++ [c],
      ⟨⟨front, c, hc, rfl⟩, (longestDotted_append_iff hd hs).mp hlongest⟩, hs⟩
  · rintro ⟨hnames, _, ⟨⟨front, c, hc, rfl⟩, hextends⟩, hs⟩
    have hd := mem_dottedNames_iff.mpr ⟨head, path, hnames, rfl⟩
    exact ⟨hnames, (longestDotted_append_iff hd hs).mpr hextends, front, c, hc, hs⟩

end Evaluation

/-! ## The candidates behind a tail -/

namespace HostObject

/-- An object with the other one at the end of a path of attributes. -/
def along (final : HostObject) (path : List Text) : HostObject :=
  path.foldr (fun name next => { attributes := [(name, next)] }) final

theorem reaches_along {final : HostObject} (h : final.readFault = none)
    (path : List Text) : (final.along path).Reaches path final := by
  have hfault : ∀ path, (final.along path).readFault = none := by
    intro path
    cases path with
    | nil => exact h
    | cons name path => rfl
  induction path with
  | nil => exact .here
  | cons name path ih =>
      refine .further ?_ ih
      have hread : Table.get? (final.along (name :: path)).attributes name
          = some (final.along path) := if_pos rfl
      rw [read, hread]
      simp only [hfault path]

end HostObject

namespace Evaluator

variable {host : Host} {evaluator : Evaluator} {text head : Text} {wordStart : Int}
  {path : List Text} {object final : HostObject} {names : List Text}

/-- Behind a tail the candidates are not the attributes of what is called like the
first part of it, if there are any. -/
def SparesTail (host : Host) (evaluator : Evaluator) (text : Text) (wordStart : Int) :
    Prop :=
  ∀ head path, Evaluation.FindsTail (Text.before text wordStart) head path →
    ∀ object final names, Denotes host evaluator head object →
      object.Reaches path final → final.list = .ok names → names ≠ [] →
        (candidates host evaluator text wordStart).1 ≠ .ok names

theorem candidates_of_findsTail
    (h : Evaluation.FindsTail (Text.before text wordStart) head path)
    (hdenotes : Denotes host evaluator head object) (hreach : object.Reaches path final)
    (hlist : final.list = .ok names) :
    candidates host evaluator text wordStart = (.ok names, []) := by
  rw [candidates_of_longest h.longest]
  exact attributes_of_reaches h.names hdenotes hreach hlist

theorem exists_not_sparesTail
    (h : Evaluation.FindsTail (Text.before text wordStart) head path) (host : Host) :
    ∃ evaluator, ¬ SparesTail host evaluator text wordStart := by
  let final : HostObject := { attributes := [(head, {})] }
  let evaluator : Evaluator :=
    { reporter := { renderer := {} }, bindings := [(head, final.along path)] }
  have hdenotes : evaluator.Denotes host head (final.along path) := .bound (if_pos rfl)
  have hreach : (final.along path).Reaches path final := HostObject.reaches_along rfl path
  have hlist : final.list = .ok [head] := by
    rw [HostObject.list]
    rfl
  refine ⟨evaluator, fun hspares => ?_⟩
  have hcandidates := candidates_of_findsTail h hdenotes hreach hlist
  refine hspares head path h _ _ _ hdenotes hreach hlist (List.cons_ne_nil _ _) ?_
  rw [hcandidates]

end Evaluator

/-- The name in front of the cursor is only a tail exactly if what is in front of it is
cut off. Then the candidates are all the same those of what is called like the first
part of the tail, be it bound or always there. So the tail is spared exactly if there
is nothing to list, and for all sessions exactly if there is no tail. -/
theorem candidates_take_tail (text : Text) (wordStart : Int) :
    (∀ head path, Evaluation.FindsTail (Text.before text wordStart) head path
      ↔ (∀ name ∈ head :: path, name ∈ Evaluation.identifiers)
        ∧ ∃ front, Evaluation.CutOff front
          ∧ (Text.before text wordStart
              = front ++ Text.join ['.'] (head :: path) ++ ['.']
            ∨ Text.before text wordStart
              = front ++ Text.join ['.'] (head :: path) ++ ['.', '\n']))
    ∧ (∀ head path, Evaluation.FindsTail (Text.before text wordStart) head path →
      ∀ (host : Host) (evaluator : Evaluator) object final names,
        evaluator.Denotes host head object → object.Reaches path final →
          final.list = .ok names →
            evaluator.candidates host text wordStart = (.ok names, []))
    ∧ (∀ (host : Host) (evaluator : Evaluator),
      evaluator.SparesTail host text wordStart
        ↔ ∀ head path, Evaluation.FindsTail (Text.before text wordStart) head path →
          ∀ object final names, evaluator.Denotes host head object →
            object.Reaches path final → final.list = .ok names → names = [])
    ∧ ∀ host : Host,
      (∀ evaluator : Evaluator, evaluator.SparesTail host text wordStart)
        ↔ ∀ head path, ¬ Evaluation.FindsTail (Text.before text wordStart) head path := by
  refine ⟨fun head path => Evaluation.findsTail_iff, ?_, ?_, ?_⟩
  · intro head path h host evaluator object final names hdenotes hreach hlist
    exact Evaluator.candidates_of_findsTail h hdenotes hreach hlist
  · intro host evaluator
    constructor
    · intro hspares head path h object final names hdenotes hreach hlist
      by_contra hne
      refine hspares head path h object final names hdenotes hreach hlist hne ?_
      rw [Evaluator.candidates_of_findsTail h hdenotes hreach hlist]
    · intro hnothing head path h object final names hdenotes hreach hlist hne
      exact absurd (hnothing head path h object final names hdenotes hreach hlist) hne
  · intro host
    constructor
    · intro hspares head path h
      obtain ⟨evaluator, hnot⟩ := Evaluator.exists_not_sparesTail h host
      exact hnot (hspares evaluator)
    · intro hno evaluator head path h
      exact absurd h (hno head path)

/-- Behind the call `f(x)` and a dot, and inside a name whose first letter is not
English. -/
theorem candidates_take_attributes_of_global :
    let object : HostObject := { attributes := [(['z'], {})] }
    let host : Host :=
      { compile := fun _ => .ok {}, builtins := {}, moduleName := {} }
    let evaluator : Evaluator :=
      { reporter := { renderer := {} }, bindings := [(['b'], object)] }
    ¬ evaluator.SparesTail host (Text.ofString "f(x).b.") 7
      ∧ ¬ evaluator.SparesTail host (Text.ofString "éb.") 3 := by
  intro object host evaluator
  have hnames : ∀ name ∈ [['b']], name ∈ Evaluation.identifiers :=
    List.forall_mem_singleton.mpr
      (Evaluation.mem_identifiers_iff.mpr ⟨'b', [], rfl, rfl, List.forall_mem_nil _⟩)
  have hdenotes : evaluator.Denotes host ['b'] object := .bound rfl
  have hcall : Evaluation.FindsTail (Text.ofString "f(x).b.") ['b'] [] :=
    Evaluation.findsTail_iff.mpr ⟨hnames, Text.ofString "f(x)" ++ ['.'],
      .dot (List.forall_mem_nil _), .inl rfl⟩
  have hletter : Evaluation.FindsTail (Text.ofString "éb.") ['b'] [] :=
    Evaluation.findsTail_iff.mpr ⟨hnames, ['é'],
      .word (by decide) (List.forall_mem_singleton.mpr rfl), .inl rfl⟩
  refine ⟨fun h => ?_, fun h => ?_⟩
  · exact h ['b'] [] hcall object object [['z']] hdenotes .here rfl (by decide) rfl
  · exact h ['b'] [] hletter object object [['z']] hdenotes .here rfl (by decide) rfl

end DiagnosticConsole
