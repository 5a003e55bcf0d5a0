import DiagnosticConsole.Text.Basic
import DiagnosticConsole.Text.DecimalDigit

/-!
# Escape sequences

A terminal takes an escape sequence as an instruction and draws nothing for it.
Every kind of sequence has the same form: an introducer, any number of parameter
characters, and one final character, which no parameter is. So at most one
sequence of a kind begins at any place, and taking sequences out of a text is
one walk from left to right.
-/

namespace DiagnosticConsole

namespace Escape

/-- The escape character. -/
def esc : Char := '\x1b'

/-- The bell, which ends a hyperlink. -/
def bell : Char := '\x07'

/-- A kind of sequence. -/
structure Form where
  introducer : Text
  isParameter : Char → Bool
  isFinal : Char → Bool
  /-- The first final character ends the parameters. -/
  final_not_parameter : ∀ c, isFinal c = true → isParameter c = false

/-- Colours: digits of any script and semicolons, up to an `m`. -/
def color : Form where
  introducer := [esc, '[']
  isParameter c := c = ';' || Text.isDecimalDigit c
  isFinal c := c = 'm'
  final_not_parameter := by
    intro c h
    have : c = 'm' := by simpa using h
    subst this
    decide

theorem isDigit_eq_false_of_isAlpha {c : Char} (h : c.isAlpha = true) :
    c.isDigit = false := by
  have hletter : (decide (c.val ≥ 'A'.val ∧ c.val ≤ 'Z'.val)
      || decide (c.val ≥ 'a'.val) && decide (c.val ≤ 'z'.val)) = true := h
  simp only [Bool.or_eq_true, Bool.and_eq_true, decide_eq_true_eq] at hletter
  simp only [Char.isDigit, Bool.and_eq_false_iff, decide_eq_false_iff_not]
  simp only [ge_iff_le, UInt32.le_iff_toNat_le] at hletter ⊢
  have : 'A'.val.toNat = 65 ∧ 'z'.val.toNat = 122 ∧ '0'.val.toNat = 48
      ∧ '9'.val.toNat = 57 ∧ 'Z'.val.toNat = 90 ∧ 'a'.val.toNat = 97 := by decide
  omega

theorem ne_of_isAlpha {c d : Char} (h : c.isAlpha = true)
    (hd : d.isAlpha = false) : c ≠ d := by
  rintro rfl
  simp [hd] at h

/-- Control sequences: digits and semicolons, up to a letter. -/
def control : Form where
  introducer := [esc, '[']
  isParameter c := c = ';' || c.isDigit
  isFinal c := c.isAlpha
  final_not_parameter := by
    intro c h
    have hs : c ≠ ';' := ne_of_isAlpha h (by decide)
    simp [hs, isDigit_eq_false_of_isAlpha h]

/-- Control sequences as they are taken out of what is echoed where there is no
terminal: there may be question marks among the parameters. -/
def echoed : Form where
  introducer := [esc, '[']
  isParameter c := c = ';' || c = '?' || c.isDigit
  isFinal c := c.isAlpha
  final_not_parameter := by
    intro c h
    have hs : c ≠ ';' := ne_of_isAlpha h (by decide)
    have hq : c ≠ '?' := ne_of_isAlpha h (by decide)
    simp [hs, hq, isDigit_eq_false_of_isAlpha h]

/-- Hyperlinks: anything up to a bell. -/
def hyperlink : Form where
  introducer := [esc, ']', '8', ';', ';']
  isParameter c := c ≠ bell
  isFinal c := c = bell
  final_not_parameter := by simp

/-- The length of the sequence of this kind that a text begins with, zero if it
begins with none. -/
def Form.length (form : Form) (t : Text) : Nat :=
  if form.introducer.isPrefixOf t then
    let rest := t.drop form.introducer.length
    let parameters := (rest.takeWhile form.isParameter).length
    match rest.drop parameters with
    | c :: _ =>
        if form.isFinal c then form.introducer.length + parameters + 1 else 0
    | [] => 0
  else 0

/-- The length of the sequence that a text begins with: the first of the kinds
that has one. -/
def lengthOf : List Form → Text → Nat
  | [], _ => 0
  | form :: rest, t =>
      match form.length t with
      | 0 => lengthOf rest t
      | n + 1 => n + 1

/-- The text without the sequences of the kinds, where `skip` characters still
belong to a sequence that began before. -/
def removeFrom (forms : List Form) : Nat → Text → Text
  | _, [] => []
  | skip + 1, _ :: rest => removeFrom forms skip rest
  | 0, c :: rest =>
      match lengthOf forms (c :: rest) with
      | 0 => c :: removeFrom forms 0 rest
      | n + 1 => removeFrom forms n rest

/-- The text without the sequences of the kinds. -/
def remove (forms : List Form) (t : Text) : Text := removeFrom forms 0 t

/-- The text without colours. -/
def stripColor (t : Text) : Text := remove [color] t

/-- The text without control sequences and hyperlinks: what is drawn. -/
def stripAll (t : Text) : Text := remove [control, hyperlink] t

/-- The text as it is echoed where there is no terminal. -/
def stripEchoed (t : Text) : Text := remove [echoed] t

end Escape

end DiagnosticConsole
