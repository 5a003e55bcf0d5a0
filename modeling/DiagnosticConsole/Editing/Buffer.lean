import DiagnosticConsole.Text.Blank

/-!
# The edit buffer

A buffer is a text with a cursor in it. Every editing operation gives a buffer
again, so the cursor never leaves the text.
-/

namespace DiagnosticConsole

/-- A cursor that is not in its text. -/
structure CursorFault where
  cursor : Int
  length : Nat
  deriving DecidableEq, Repr

/-- The wording of a cursor fault. -/
def CursorFault.message (fault : CursorFault) : Text :=
  Text.ofString "Cursor " ++ Text.ofInt fault.cursor
    ++ Text.ofString " outside of buffer of length " ++ Text.ofNat fault.length

/-- A text with a cursor. -/
structure Buffer where
  text : Text
  cursor : Nat
  cursor_le_length : cursor ≤ text.length
  deriving DecidableEq, Repr

namespace Buffer

/-- The buffer of nothing. -/
def empty : Buffer := ⟨[], 0, Nat.le_refl 0⟩

/-- The buffer of a text with a cursor, if the cursor is in the text. -/
def at? (text : Text) (cursor : Int) : Except CursorFault Buffer :=
  if h : 0 ≤ cursor ∧ cursor ≤ text.length then
    .ok ⟨text, cursor.toNat, by omega⟩
  else .error ⟨cursor, text.length⟩

/-- The text in front of the cursor. -/
def head (b : Buffer) : Text := b.text.take b.cursor

/-- The text from the cursor on. -/
def tail (b : Buffer) : Text := b.text.drop b.cursor

/-- Tests whether nothing but blanks follows the cursor. -/
def isAtEnd (b : Buffer) : Bool := b.tail.all Text.isBlank

/-- Puts a text in at the cursor, which moves behind it. -/
def insertText (b : Buffer) (t : Text) : Buffer where
  text := b.head ++ t ++ b.tail
  cursor := b.cursor + t.length
  cursor_le_length := by
    have := b.cursor_le_length
    simp only [head, tail, List.length_append, List.length_take, List.length_drop]
    omega

/-- The number of characters between the start of the line and the cursor. -/
def column (b : Buffer) : Nat :=
  (b.head.reverse.takeWhile (· != '\n')).length

/-- The number of characters between the cursor and the end of the line. -/
def room (b : Buffer) : Nat := (b.tail.takeWhile (· != '\n')).length

theorem room_le_length_tail (b : Buffer) : b.room ≤ b.tail.length :=
  (List.takeWhile_sublist _).length_le

/-- Moves the cursor in its line: to the left if `n` is negative, else to the
right, as far as the line goes. -/
def moveRight (b : Buffer) (n : Int) : Buffer :=
  if n < 0 then
    { b with
      cursor := b.cursor - min b.column (-n).toNat
      cursor_le_length := by have := b.cursor_le_length; omega }
  else
    { b with
      cursor := b.cursor + min b.room n.toNat
      cursor_le_length := by
        have := b.cursor_le_length
        have := b.room_le_length_tail
        simp only [tail, List.length_drop] at this
        omega }

/-- Moves the cursor to the left in its line. -/
def moveLeft (b : Buffer) (n : Int) : Buffer := b.moveRight (-n)

/-- Takes away `n` characters in front of the cursor. Where there are fewer, the
place from which they go is counted from the end of the text. -/
def deleteBefore (b : Buffer) (n : Nat) : Buffer :=
  if b.cursor = 0 then b
  else
    let start := Text.place b.text.length ((b.cursor : Int) - n)
    let gone := (b.head.drop start).length
    { text := b.text.take start ++ b.tail
      cursor := b.cursor - gone
      cursor_le_length := by
        have := b.cursor_le_length
        have hs : start ≤ b.text.length ∨ b.text.length < start := by omega
        simp only [gone, head, tail, List.length_append, List.length_take,
          List.length_drop]
        omega }

/-- Takes away `n` characters in front of the cursor, unless `n` is negative. -/
def deleteBefore? (b : Buffer) (n : Int) : Option Buffer :=
  if n < 0 then none else some (b.deleteBefore n.toNat)

/-- Takes away up to `n` characters behind the cursor; a negative `n` leaves so
many at the end of the text. -/
def deleteAfter (b : Buffer) (n : Int) : Buffer where
  text := b.head ++ b.tail.drop (Text.before b.tail n).length
  cursor := b.cursor
  cursor_le_length := by
    have := b.cursor_le_length
    simp only [head, List.length_append, List.length_take]
    omega

end Buffer

end DiagnosticConsole
