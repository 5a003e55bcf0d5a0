import DiagnosticConsole.Json.Reader

/-!
# The limits of reading

Reading stops at a fault of the text, or where it goes past a limit: an integer of
too many digits, or too many values inside of each other. Both need a text that is
long enough. An integer takes a character for each digit; and each value that holds
others takes a character to open it, which is gone from the text that is left for
them, so that the room for more values never shrinks faster than the text
(`Stop.Within.mono`).
-/

namespace DiagnosticConsole.Json

/-- A stop that there may be in a text of a length, with room for so many values
inside of each other. -/
def Stop.Within (room length : Nat) : Stop → Prop
  | .fault _ _ => True
  | .integerTooLong digits => Text.Integer.maxDigits < digits ∧ digits ≤ length
  | .tooDeep _ => room < length

theorem Stop.Within.mono {room room' length length' : Nat} {stop : Stop}
    (h : stop.Within room length) (hroom : room' + length ≤ room + length')
    (hlength : length ≤ length') : stop.Within room' length' := by
  cases stop with
  | fault => trivial
  | integerTooLong digits => exact ⟨h.1, Nat.le_trans h.2 hlength⟩
  | tooDeep nesting =>
      have hdeep : room < length := h
      show room' < length'
      omega

/-! ## Strings -/

theorem lowHalf_stop {text : Text} {stop : Stop} (h : lowHalf text = .error stop) :
    ∃ reason remaining, stop = .fault reason remaining := by
  rw [lowHalf.eq_def] at h
  split at h
  · split at h
    · cases h
      exact ⟨_, _, rfl⟩
    · cases h
  · cases h

theorem codeEscape_stop {text : Text} {stop : Stop}
    (h : codeEscape text = .error stop) :
    ∃ reason remaining, stop = .fault reason remaining := by
  rw [codeEscape.eq_def] at h
  split at h
  · split at h
    · cases h
      exact ⟨_, _, rfl⟩
    · split at h
      · split at h
        · next hlow =>
            cases h
            exact lowHalf_stop hlow
        · cases h
        · cases h
      · cases h
  · cases h
    exact ⟨_, _, rfl⟩

/-- A string stops at nothing but a fault. -/
theorem stringBody_stop {opening : Nat} {text : Text} {stop : Stop}
    (h : stringBody opening text = .error stop) :
    ∃ reason remaining, stop = .fault reason remaining := by
  induction hlength : text.length using Nat.strongRecOn generalizing text with
  | ind n ih =>
      have hbody {rest : Text} (hlt : rest.length < text.length)
          (h : stringBody opening rest = .error stop) :=
        ih rest.length (hlength ▸ hlt) h rfl
      rw [stringBody.eq_def] at h
      split at h
      · cases h
        exact ⟨_, _, rfl⟩
      · cases h
      · cases h
        exact ⟨_, _, rfl⟩
      · split at h
        · next hescape =>
            cases h
            exact codeEscape_stop hescape
        · next rest' hlt _ =>
            split at h
            · next hrest =>
                cases h
                exact hbody (by simp only [List.length_cons]; omega) hrest
            · cases h
      · split at h
        · cases h
          exact ⟨_, _, rfl⟩
        · split at h
          · next hrest =>
              cases h
              exact hbody (by simp only [List.length_cons]; omega) hrest
          · cases h
      · split at h
        · cases h
          exact ⟨_, _, rfl⟩
        · split at h
          · next hrest =>
              cases h
              exact hbody (by simp only [List.length_cons]; omega) hrest
          · cases h

/-! ## Numbers -/

theorem length_digits_le (text : Text) : (digits text).length ≤ text.length :=
  (List.takeWhile_sublist _).length_le

theorem length_whole_le (text : Text) : (whole text).length ≤ text.length := by
  unfold whole
  extract_lets sign
  have hsign : sign.length ≤ text.length := by
    dsimp only [sign]
    split
    · exact Nat.succ_le_succ (Nat.zero_le _)
    · exact Nat.zero_le _
  have hdrop := List.length_drop (l := text) (i := sign.length)
  split
  · next hzero =>
      rw [hzero, List.length_cons] at hdrop
      rw [List.length_append, List.length_singleton]
      omega
  · split
    · exact Nat.zero_le _
    · have hdigits := length_digits_le (text.drop sign.length)
      rw [List.length_append]
      omega

theorem integerOf_stop {numeral : Text} {stop : Stop}
    (h : integerOf numeral = .error stop) :
    ∃ digits, stop = .integerTooLong digits ∧ Text.Integer.maxDigits < digits
      ∧ digits ≤ numeral.length := by
  rw [integerOf.eq_def] at h
  split at h
  · split at h
    · cases h
    · next hlong =>
        cases h
        exact ⟨_, rfl, Nat.lt_of_not_le hlong, Nat.le_succ _⟩
  · split at h
    · cases h
    · next hlong =>
        cases h
        exact ⟨_, rfl, Nat.lt_of_not_le hlong, Nat.le_refl _⟩

theorem number_stop {text : Text} {stop : Stop} (h : number text = .error stop)
    (room : Nat) : stop.Within room text.length := by
  have hwhole := length_whole_le text
  rw [number.eq_def] at h
  split at h
  · cases h
    trivial
  · next c w hw =>
      rw [hw] at hwhole
      split at h
      · cases h
        trivial
      · simp only [] at h
        split at h
        · split at h
          · cases h
          · next hinteger =>
              cases h
              obtain ⟨ds, rfl, hlong, hle⟩ := integerOf_stop hinteger
              exact ⟨hlong, Nat.le_trans hle hwhole⟩
        · cases h

theorem scalar_stop {text : Text} {stop : Stop} (h : scalar text = .error stop)
    (room : Nat) : stop.Within room text.length := by
  cases text with
  | nil =>
      cases h
      trivial
  | cons c rest =>
      rw [scalar] at h
      split at h
      · cases h
      · exact number_stop h room

/-! ## Values -/

/-- A part of the reader stops within bounds on the texts of a length. -/
def StopsWithin {α : Type} (part : Nat → (text : Text) → Part text α)
    (length : Nat) : Prop :=
  ∀ room text stop, text.length = length → part room text = .error stop →
    stop.Within room length

/-- What stops a part on a shorter text, inside of one value more at most, is within
the bounds of the longer one. -/
theorem Stop.Within.of_shorter {α : Type} {part : Nat → (text : Text) → Part text α}
    {room room' : Nat} {text text' : Text} {stop : Stop}
    (h : ∀ shorter < text.length, StopsWithin part shorter)
    (hshorter : text'.length < text.length) (hroom : room ≤ room' + 1)
    (hstop : part room' text' = .error stop) : stop.Within room text.length :=
  (h _ hshorter _ _ _ rfl hstop).mono (by omega) (Nat.le_of_lt hshorter)

theorem value_stopsWithin {length : Nat}
    (hitems : ∀ shorter < length, StopsWithin items shorter)
    (hmembers : ∀ shorter < length, StopsWithin members shorter) :
    StopsWithin value length := by
  rintro room text stop rfl h
  rw [value.eq_def] at h
  split at h
  · next rest =>
      split at h
      · next hbody =>
          cases h
          obtain ⟨reason, remaining, rfl⟩ := stringBody_stop hbody
          trivial
      · cases h
  · next rest =>
      have hrest := length_skipSpace_le rest
      split at h
      · next hroom =>
          cases h
          exact hroom ▸ Nat.succ_pos rest.length
      · split at h
        · cases h
        · split at h
          -- the bracket is gone from the text along with the room for it
          · next hstop =>
              cases h
              refine .of_shorter hitems ?_ (by omega) hstop
              exact Nat.lt_succ_of_le hrest
          · cases h
  · next rest =>
      have hrest := length_skipSpace_le rest
      split at h
      · next hroom =>
          cases h
          exact hroom ▸ Nat.succ_pos rest.length
      · split at h
        · cases h
        · split at h
          · next hstop =>
              cases h
              refine .of_shorter hmembers ?_ (by omega) hstop
              exact Nat.lt_succ_of_le hrest
          · cases h
  · exact scalar_stop h room

theorem items_stopsWithin {length : Nat} (hvalue : StopsWithin value length)
    (hitems : ∀ shorter < length, StopsWithin items shorter) :
    StopsWithin items length := by
  rintro room text stop rfl h
  rw [items.eq_def] at h
  split at h
  · next hstop =>
      cases h
      exact hvalue _ _ _ rfl hstop
  · next j rest hlt _ =>
      have hrest := length_skipSpace_le rest
      split at h
      · cases h
      · next after hafter =>
          have hbehind := length_skipSpace_le after
          rw [hafter, List.length_cons] at hrest
          split at h
          · next hstop =>
              cases h
              exact .of_shorter hitems (by omega) (Nat.le_succ room) hstop
          · cases h
      · cases h
        trivial

theorem members_stopsWithin {length : Nat}
    (hvalue : ∀ shorter < length, StopsWithin value shorter)
    (hmembers : ∀ shorter < length, StopsWithin members shorter) :
    StopsWithin members length := by
  rintro room text stop rfl h
  rw [members.eq_def] at h
  split at h
  · next quoted =>
      split at h
      · next hbody =>
          cases h
          obtain ⟨reason, remaining, rfl⟩ := stringBody_stop hbody
          trivial
      · next key rest hlt _ =>
          have hrest := length_skipSpace_le rest
          split at h
          · next behind hcolon =>
              have hbehind := length_skipSpace_le behind
              rw [hcolon, List.length_cons] at hrest
              split at h
              · next hstop =>
                  cases h
                  refine .of_shorter hvalue ?_ (Nat.le_succ room) hstop
                  rw [List.length_cons]
                  omega
              · next j rest' hlt' _ =>
                  have hrest' := length_skipSpace_le rest'
                  split at h
                  · cases h
                  · next after hcomma =>
                      have hafter := length_skipSpace_le after
                      rw [hcomma, List.length_cons] at hrest'
                      split at h
                      · next hstop =>
                          cases h
                          refine .of_shorter hmembers ?_ (Nat.le_succ room) hstop
                          rw [List.length_cons]
                          omega
                      · cases h
                  · cases h
                    trivial
          · cases h
            trivial
  · cases h
    trivial

/-- The parts of the reader hand shorter texts to each other, and so what one of them
stops at lies within the bounds of the text that it was given. -/
theorem parts_stopWithin (length : Nat) :
    StopsWithin value length ∧ StopsWithin items length
      ∧ StopsWithin members length := by
  induction length using Nat.strongRecOn with
  | ind length ih =>
      have hvalue : StopsWithin value length :=
        value_stopsWithin (fun _ h => (ih _ h).2.1) fun _ h => (ih _ h).2.2
      exact ⟨hvalue, items_stopsWithin hvalue fun _ h => (ih _ h).2.1,
        members_stopsWithin (fun _ h => (ih _ h).1) fun _ h => (ih _ h).2.2⟩

/-- A fault that there may be in a text of a length. -/
def ReadFault.Within (length : Nat) : ReadFault → Prop
  | .malformed _ => True
  | .integerTooLong digits => Text.Integer.maxDigits < digits ∧ digits ≤ length
  | .tooDeep _ => maxDepth < length

/-- An integer is too long only with so many digits, and it takes a longer text than
values may be open at once to be nested too deep. -/
theorem parse_faultWithin {text : Text} {fault : ReadFault}
    (h : parse text = .error fault) : fault.Within text.length := by
  have hskip := length_skipSpace_le text
  have hwithin {stop : Stop} (hstop : value maxDepth (skipSpace text) = .error stop) :
      stop.Within maxDepth text.length :=
    ((parts_stopWithin _).1 _ _ _ rfl hstop).mono (by omega) hskip
  unfold parse at h
  dsimp only at h
  split at h
  · cases h
    trivial
  · split at h
    · cases h
      trivial
    · next hstop =>
        cases h
        exact hwithin hstop
    · next hstop =>
        cases h
        exact hwithin hstop
    · split at h
      · cases h
      · cases h
        trivial

end DiagnosticConsole.Json
