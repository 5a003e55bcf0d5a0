import DiagnosticConsole.Log

/-!
# What comes out of a handler

A handler that tells of what it has caught reads the text of it first. So there are
two ways past an ordinary handler: it does not catch the exception, or something else
comes up while the text is read, and that comes out in place of the exception
(`Exception.escaping?`). Whoever has to do with such a handler asks no more than
whether anything comes out of it (`Notice.ofException_eq`).
-/

namespace DiagnosticConsole

namespace Exception

variable {e fault : Exception}

theorem text_eq (e : Exception) :
    e.text = match e.textFault? with
      | none => .ok e.message
      | some fault => .error fault := by
  rw [message, text]
  cases e.textFault? <;> rfl

theorem text_eq_error_iff : e.text = .error fault ↔ e.textFault? = some fault := by
  rw [text_eq]
  cases e.textFault? <;> simp

theorem message_of_text {said : Text} (h : e.text = .ok said) : e.message = said := by
  rw [message, h]

theorem textFault?_of_text {said : Text} (h : e.text = .ok said) :
    e.textFault? = none := by
  rw [text_eq] at h
  cases hfault : e.textFault? with
  | none => rfl
  | some fault =>
      rw [hfault] at h
      cases h

theorem textFault?_eq_none_iff : e.textFault? = none ↔ ∃ said, e.text = .ok said := by
  constructor
  · intro h
    rw [text_eq, h]
    exact ⟨_, rfl⟩
  · rintro ⟨said, h⟩
    exact textFault?_of_text h

/-- What comes out of an ordinary handler that tells of an exception, if anything
does. -/
def escaping? (e : Exception) : Option Exception :=
  if e.isOrdinary then e.textFault? else some e

theorem escaping?_of_ordinary (h : e.isOrdinary = true) :
    e.escaping? = e.textFault? :=
  if_pos h

theorem escaping?_of_not_ordinary (h : e.isOrdinary = false) : e.escaping? = some e :=
  if_neg ((Bool.not_eq_true _).mpr h)

theorem escaping?_eq_none_iff :
    e.escaping? = none ↔ e.isOrdinary = true ∧ ∃ said, e.text = .ok said := by
  rw [← textFault?_eq_none_iff]
  cases h : e.isOrdinary with
  | true => rw [escaping?_of_ordinary h, eq_self, true_and]
  | false => simp [escaping?_of_not_ordinary h]

theorem escaping?_eq_some_iff :
    e.escaping? = some fault
      ↔ (e.isOrdinary = true ∧ e.text = .error fault)
        ∨ (e.isOrdinary = false ∧ e = fault) := by
  rw [text_eq_error_iff]
  cases h : e.isOrdinary with
  | true => simp [escaping?_of_ordinary h]
  | false => simp [escaping?_of_not_ordinary h]

end Exception

/-- A handler that tells of an exception has a notice to give, unless something comes
out of it. -/
theorem Notice.ofException_eq (heading : Text) (e : Exception) :
    ofException heading e = match e.escaping? with
      | none => .ok (.debug (heading ++ e.message))
      | some escaping => .error escaping := by
  rw [ofException, Exception.escaping?, Exception.text_eq]
  split
  · cases e.textFault? <;> rfl
  · rfl

end DiagnosticConsole
