import DiagnosticConsole.Language.Token
import DiagnosticConsole.Proofs.Text.Cuts
import Mathlib.Data.List.Forall2
import Mathlib.Data.List.Pairwise

/-!
# The tokens of a text

A lexer cuts a text into lexemes, one after the other, and an empty lexeme stands
in nobody's way: leaving it out breaks no row. So the tokens of a text tile it, and
since none of them is empty, every offset lies in just one (`Tile.existsUnique`).

Whether problems are wanted or not makes no difference to the tokens. It makes one
to lexemes that are no part of the language, the first of which ends the list with
a fault where problems are wanted (`tokensOf_eq_ok`, `tokensOf_eq_error`).
-/

namespace DiagnosticConsole

/-! ## Classes of types -/

namespace TokenType

/-- Of the types of names and of keywords the nearest that a type is or lies
under: any other that it lies under is further up. -/
structure Nearest (type ancestor : TokenType) : Prop where
  mem : ancestor = .name ∨ ancestor = .keyword
  isIn : type.isIn ancestor = true
  nearest : ∀ other, other = .name ∨ other = .keyword → type.isIn other = true →
    ancestor.isIn other = true

variable {type : TokenType}

theorem isIn_refl (type : TokenType) : type.isIn type = true :=
  List.isPrefixOf_iff_prefix.mpr (List.prefix_refl _)

/-- No type lies under names and under keywords. -/
theorem not_isIn_keyword (h : type.isIn .name = true) :
    ¬ type.isIn .keyword = true := by
  intro hkeyword
  obtain ⟨rest, hname⟩ := List.isPrefixOf_iff_prefix.mp h
  obtain ⟨rest', hrest⟩ := List.isPrefixOf_iff_prefix.mp hkeyword
  rw [← hname] at hrest
  have hhead : Text.ofString "Keyword" = Text.ofString "Name" :=
    (List.cons.inj hrest).1
  exact absurd hhead (by decide)

theorem nearest_name_iff : type.Nearest .name ↔ type.isIn .name = true := by
  refine ⟨fun h => h.isIn, fun h => ⟨.inl rfl, h, ?_⟩⟩
  rintro other (rfl | rfl) hother
  · exact isIn_refl _
  · exact absurd hother (not_isIn_keyword h)

theorem nearest_keyword_iff :
    type.Nearest .keyword ↔ type.isIn .keyword = true := by
  refine ⟨fun h => h.isIn, fun h => ⟨.inr rfl, h, ?_⟩⟩
  rintro other (rfl | rfl) hother
  · exact absurd h (not_isIn_keyword hother)
  · exact isIn_refl _

end TokenType

namespace TokenClass

variable {type : TokenType}

theorem ofType_eq_identifier_iff :
    ofType type = .identifier ↔ type.Nearest .name := by
  rw [TokenType.nearest_name_iff, ofType]
  split
  · next h => simp [h]
  · next h => split <;> simp [h]

theorem ofType_eq_keyword_iff :
    ofType type = .keyword ↔ type.Nearest .keyword := by
  rw [TokenType.nearest_keyword_iff, ofType]
  split
  · next h => simp [TokenType.not_isIn_keyword h]
  · next h => split <;> simp_all

theorem ofType_eq_other_iff :
    ofType type = .other ↔ ∀ ancestor, ¬ type.Nearest ancestor := by
  constructor
  · intro hother ancestor hnearest
    rcases hnearest.mem with rfl | rfl
    · rw [ofType_eq_identifier_iff.mpr hnearest] at hother
      cases hother
    · rw [ofType_eq_keyword_iff.mpr hnearest] at hother
      cases hother
  · intro hnone
    cases hclass : ofType type with
    | identifier => exact absurd (ofType_eq_identifier_iff.mp hclass) (hnone _)
    | keyword => exact absurd (ofType_eq_keyword_iff.mp hclass) (hnone _)
    | other => rfl

end TokenClass

/-! ## Lexemes in a row -/

namespace Lexeme

/-- A lexeme that is not empty and no part of the language. -/
def IsForeign (lexeme : Lexeme) : Prop :=
  lexeme.text ≠ [] ∧ lexeme.type.isIn .error = true

instance (lexeme : Lexeme) : Decidable lexeme.IsForeign :=
  inferInstanceAs (Decidable (_ ∧ _))

/-- Lexemes each of which begins where the one in front of it ends, from an offset
on. -/
def ContiguousFrom : Int → List Lexeme → Prop
  | _, [] => True
  | offset, lexeme :: rest =>
      lexeme.start = offset ∧ ContiguousFrom (offset + lexeme.text.length) rest

/-- Lexemes that a text is cut into. -/
structure Cut (lexemes : List Lexeme) (text : Text) : Prop where
  contiguous : ContiguousFrom 0 lexemes
  covers : lexemes.flatMap Lexeme.text = text

/-- The lexemes that are not empty. -/
def solid (lexemes : List Lexeme) : List Lexeme :=
  lexemes.filter fun lexeme => !lexeme.text.isEmpty

variable {lexeme : Lexeme} {lexemes before after : List Lexeme}

theorem solid_cons_of_nil (h : lexeme.text = []) (rest : List Lexeme) :
    solid (lexeme :: rest) = solid rest := by
  rw [solid, List.filter_cons_of_neg (by simp [h])]
  rfl

theorem solid_cons_of_ne_nil (h : lexeme.text ≠ []) (rest : List Lexeme) :
    solid (lexeme :: rest) = lexeme :: solid rest := by
  rw [solid, List.filter_cons_of_pos (by simp [h])]
  rfl

theorem start_of_contiguousFrom {offset : Int}
    (h : ContiguousFrom offset (before ++ lexeme :: after)) :
    lexeme.start = offset + (before.flatMap Lexeme.text).length := by
  induction before generalizing offset with
  | nil =>
      rw [List.flatMap_nil, List.length_nil]
      have := h.1
      omega
  | cons b rest ih =>
      rw [ih h.2, List.flatMap_cons, List.length_append]
      omega

/-- The stretch of text that a lexeme claims to be is its own. -/
theorem slice_of_contiguousFrom (front : Text)
    (h : ContiguousFrom front.length lexemes) :
    ∀ l ∈ lexemes, Text.slice (front ++ lexemes.flatMap Lexeme.text) l.start
      (l.start + l.text.length) = l.text := by
  induction lexemes generalizing front with
  | nil => exact fun l hl => nomatch hl
  | cons lexeme rest ih =>
      obtain ⟨hstart, hrest⟩ := h
      rw [← Int.natCast_add, ← List.length_append] at hrest
      rw [List.flatMap_cons, ← List.append_assoc, List.forall_mem_cons]
      refine ⟨?_, ih _ hrest⟩
      rw [hstart, ← Int.natCast_add, ← List.length_append,
        Text.slice_eq_drop_take, List.take_left, List.drop_left]

/-- Among lexemes there is a first that is no part of the language, or none. -/
theorem exists_first_foreign (lexemes : List Lexeme) :
    (∃ before lexeme after, lexemes = before ++ lexeme :: after
        ∧ lexeme.IsForeign ∧ ∀ b ∈ before, ¬ b.IsForeign)
      ∨ ∀ l ∈ lexemes, ¬ l.IsForeign := by
  cases hfind : lexemes.find? fun l => decide l.IsForeign with
  | none => exact .inr (by simpa using hfind)
  | some lexeme =>
      obtain ⟨hforeign, before, after, hlexemes, hbefore⟩ :=
        List.find?_eq_some_iff_append.mp hfind
      exact .inl ⟨before, lexeme, after, hlexemes, by simpa using hforeign,
        by simpa using hbefore⟩

end Lexeme

/-! ## Lists of tokens -/

section TokensOf

variable {suppress : Bool} {lexeme : Lexeme} {lexemes before : List Lexeme}

/-- Unless a lexeme is in the way, there is a token for each that is not empty. -/
theorem tokensOf_eq_ok (h : suppress = true ∨ ∀ l ∈ lexemes, ¬ l.IsForeign) :
    tokensOf suppress lexemes
      = .ok ((Lexeme.solid lexemes).map Token.ofLexeme) := by
  induction lexemes with
  | nil => rfl
  | cons lexeme rest ih =>
      have hrest : suppress = true ∨ ∀ l ∈ rest, ¬ l.IsForeign :=
        h.imp_right fun hnone l hl => hnone l (List.mem_cons_of_mem _ hl)
      rw [tokensOf]
      by_cases hempty : lexeme.text = []
      · rw [if_pos (by simp [hempty]), ih hrest, Lexeme.solid_cons_of_nil hempty]
      · have hpasses : ¬ (lexeme.type.isIn .error && !suppress) = true := by
          intro hstops
          simp only [Bool.and_eq_true, Bool.not_eq_true'] at hstops
          rcases h with hsuppress | hnone
          · rw [hsuppress] at hstops
            cases hstops.2
          · exact hnone lexeme List.mem_cons_self ⟨hempty, hstops.1⟩
        rw [if_neg (by simp [hempty]), if_neg hpasses, ih hrest,
          Lexeme.solid_cons_of_ne_nil hempty]
        rfl

/-- The first lexeme that is no part of the language is what the fault names. -/
theorem tokensOf_eq_error (hforeign : lexeme.IsForeign)
    (hbefore : ∀ b ∈ before, ¬ b.IsForeign) (after : List Lexeme) :
    tokensOf false (before ++ lexeme :: after)
      = .error ⟨lexeme.start, lexeme.text⟩ := by
  induction before with
  | nil =>
      rw [List.nil_append, tokensOf, if_neg (by simp [hforeign.1]),
        if_pos (by simp [hforeign.2])]
  | cons b rest ih =>
      obtain ⟨hb, hrest⟩ := List.forall_mem_cons.mp hbefore
      rw [List.cons_append, tokensOf, ih hrest]
      by_cases hempty : b.text = []
      · rw [if_pos (by simp [hempty])]
      · have hpasses : ¬ (b.type.isIn .error && !false) = true := by
          intro hstops
          rw [Bool.not_false, Bool.and_true] at hstops
          exact hb ⟨hempty, hstops⟩
        rw [if_neg (by simp [hempty]), if_neg hpasses]

end TokensOf

namespace Token

/-- An identifier or a keyword. -/
def IsWord (token : Token) : Prop :=
  token.kind = .identifier ∨ token.kind = .keyword

theorem isCompletable_iff {token : Token} :
    token.isCompletable = true ↔ token.IsWord := by
  rw [isCompletable, IsWord]
  cases token.kind <;> simp

/-- An offset lies in a token. -/
structure Covers (token : Token) (offset : Int) : Prop where
  start_le : token.start ≤ offset
  lt_stop : offset < token.stop

/-! ## Tiles -/

/-- Tokens that are not empty and each begin where the one in front ends, from an
offset up to another. -/
def Tile : Int → List Token → Int → Prop
  | start, [], stop => start = stop
  | start, token :: rest, stop =>
      token.start = start ∧ token.start < token.stop ∧ Tile token.stop rest stop

variable {start stop : Int} {token : Token} {tokens : List Token}

theorem Tile.bounds (h : Tile start tokens stop) :
    ∀ t ∈ tokens, start ≤ t.start ∧ t.start < t.stop := by
  induction tokens generalizing start with
  | nil => exact fun t ht => nomatch ht
  | cons token rest ih =>
      obtain ⟨hstart, hsolid, hrest⟩ := h
      rw [List.forall_mem_cons]
      refine ⟨by omega, ?_⟩
      intro t ht
      have := ih hrest t ht
      omega

/-- A tile ends where a later one begins, or in front of that. -/
theorem Tile.pairwise (h : Tile start tokens stop) :
    tokens.Pairwise fun s t => s.stop ≤ t.start := by
  induction tokens generalizing start with
  | nil => exact .nil
  | cons token rest ih =>
      obtain ⟨-, -, hrest⟩ := h
      exact .cons (fun t ht => (hrest.bounds t ht).1) (ih hrest)

/-- Of two different tiles one ends before the other begins. -/
theorem Tile.apart (h : Tile start tokens stop) {s t : Token} (hs : s ∈ tokens)
    (ht : t ∈ tokens) (hne : s ≠ t) : s.stop ≤ t.start ∨ t.stop ≤ s.start := by
  have hpairwise : tokens.Pairwise fun s t =>
      s.stop ≤ t.start ∨ t.stop ≤ s.start := h.pairwise.imp Or.inl
  have : Std.Symm fun s t : Token => s.stop ≤ t.start ∨ t.stop ≤ s.start :=
    ⟨fun _ _ => Or.symm⟩
  exact hpairwise.forall hs ht hne

theorem Tile.exists_covers (h : Tile start tokens stop) {offset : Int}
    (hstart : start ≤ offset) (hstop : offset < stop) :
    ∃ token ∈ tokens, token.Covers offset := by
  induction tokens generalizing start with
  | nil =>
      have : start = stop := h
      omega
  | cons token rest ih =>
      obtain ⟨hfirst, -, hrest⟩ := h
      by_cases hin : offset < token.stop
      · exact ⟨token, List.mem_cons_self, by omega, hin⟩
      · obtain ⟨t, ht, hcovers⟩ := ih hrest (by omega)
        exact ⟨t, List.mem_cons_of_mem _ ht, hcovers⟩

/-- Every offset lies in just one tile. -/
theorem Tile.existsUnique (h : Tile start tokens stop) {offset : Int}
    (hstart : start ≤ offset) (hstop : offset < stop) :
    ∃! token, token ∈ tokens ∧ token.Covers offset := by
  obtain ⟨token, htoken, hcovers⟩ := h.exists_covers hstart hstop
  refine ⟨token, ⟨htoken, hcovers⟩, ?_⟩
  rintro other ⟨hother, hcovers'⟩
  have hle := hcovers.start_le
  have hlt := hcovers.lt_stop
  have hle' := hcovers'.start_le
  have hlt' := hcovers'.lt_stop
  by_contra hne
  rcases h.apart hother htoken hne with hapart | hapart
  · omega
  · omega

/-- The tokens of contiguous lexemes are tiles. -/
theorem tile_ofLexeme {offset : Int} {lexemes : List Lexeme}
    (h : Lexeme.ContiguousFrom offset lexemes) :
    Tile offset ((Lexeme.solid lexemes).map ofLexeme)
      (offset + (lexemes.flatMap Lexeme.text).length) := by
  induction lexemes generalizing offset with
  | nil => exact (Int.add_zero offset).symm
  | cons lexeme rest ih =>
      obtain ⟨hstart, hrest⟩ := h
      have htiles := ih hrest
      rw [List.flatMap_cons, List.length_append, Int.natCast_add, ← Int.add_assoc]
      by_cases hempty : lexeme.text = []
      · rw [Lexeme.solid_cons_of_nil hempty]
        rw [hempty, List.length_nil, Int.natCast_zero, Int.add_zero] at htiles ⊢
        exact htiles
      · rw [Lexeme.solid_cons_of_ne_nil hempty, List.map_cons]
        have hpos := List.length_pos_iff.mpr hempty
        refine ⟨hstart, ?_, ?_⟩
        · show lexeme.start < lexeme.start + lexeme.text.length
          omega
        · show Tile (lexeme.start + lexeme.text.length) _ _
          rw [hstart]
          exact htiles

/-- A token as it marks a lexeme in a text: the stretch is the text of the lexeme,
and the class is that of the nearest of the types of names and keywords above it. -/
structure Marks (text : Text) (lexeme : Lexeme) (token : Token) : Prop where
  slice : Text.slice text token.start token.stop = lexeme.text
  identifier : token.kind = .identifier ↔ lexeme.type.Nearest .name
  keyword : token.kind = .keyword ↔ lexeme.type.Nearest .keyword
  other : token.kind = .other ↔ ∀ ancestor, ¬ lexeme.type.Nearest ancestor

theorem forall₂_marks {text : Text} {lexemes : List Lexeme}
    (h : Lexeme.Cut lexemes text) :
    List.Forall₂ (Marks text) (Lexeme.solid lexemes)
      ((Lexeme.solid lexemes).map ofLexeme) := by
  have hslice := Lexeme.slice_of_contiguousFrom [] h.contiguous
  rw [h.covers] at hslice
  rw [List.forall₂_map_right_iff, List.forall₂_same]
  intro lexeme hlexeme
  exact ⟨hslice lexeme (List.mem_of_mem_filter hlexeme),
    TokenClass.ofType_eq_identifier_iff, TokenClass.ofType_eq_keyword_iff,
    TokenClass.ofType_eq_other_iff⟩

end Token

end DiagnosticConsole
