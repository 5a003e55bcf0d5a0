import DiagnosticConsole.Json.Reader
import DiagnosticConsole.Proofs.Table

/-!
# What reading gives

An object that was read has each of its keys once, however often the text has
it: its members are set one after the other. So have the objects inside of it,
for the parts of the reader hand shorter texts to each other. What does not begin
with a quote, a bracket or a brace is never an object.

Plain characters between quotes are read as they stand, so the text of an object with
one member is read part by part (`parse_of_member`).
-/

namespace DiagnosticConsole.Json

/-- An object has each of its keys once. -/
def KeysOnce (json : Json) : Prop :=
  ∀ rows, json = .object rows → (Table.keys rows).Nodup

/-- All objects that keys lead to in a value have each of their keys once. -/
inductive WellFormed : Json → Prop where
  | leaf {value : Json} (h : ∀ rows, value ≠ .object rows) : WellFormed value
  | object {rows : List (Text × Json)} (once : (Table.keys rows).Nodup)
      (parts : ∀ row ∈ rows, WellFormed row.2) : WellFormed (.object rows)

theorem WellFormed.keysOnce {json : Json} (h : json.WellFormed) : json.KeysOnce := by
  rintro rows rfl
  cases h with
  | leaf h => exact absurd rfl (h rows)
  | object once _ => exact once

theorem WellFormed.once {rows : List (Text × Json)} (h : (Json.object rows).WellFormed) :
    (Table.keys rows).Nodup :=
  h.keysOnce rows rfl

theorem WellFormed.of_get? {rows : List (Text × Json)} {key : Text} {value : Json}
    (h : (Json.object rows).WellFormed) (hget : Table.get? rows key = some value) :
    value.WellFormed := by
  cases h with
  | leaf h => exact absurd rfl (h rows)
  | object once parts =>
      exact parts (key, value) ((Table.get?_eq_some_iff once).mp hget)

/-! ## Values that are no objects -/

theorem number_ne_object {text : Text} {json : Json}
    {rest : { rest : Text // rest.length < text.length }}
    (h : number text = .ok (json, rest)) (rows : List (Text × Json)) :
    json ≠ .object rows := by
  rintro rfl
  rw [number.eq_def] at h
  split at h
  · cases h
  · split at h
    · cases h
    · dsimp only at h
      split at h
      · split at h <;> cases h
      · cases h

theorem literals_ne_object (rows : List (Text × Json)) :
    ∀ literal ∈ literals, literal.2 ≠ .object rows := by
  intro literal hmem hrows
  simp only [literals, List.mem_cons, List.not_mem_nil, or_false] at hmem
  rcases hmem with rfl | rfl | rfl | rfl | rfl | rfl <;> cases hrows

theorem scalar_ne_object {text : Text} {json : Json}
    {rest : { rest : Text // rest.length < text.length }}
    (h : scalar text = .ok (json, rest)) (rows : List (Text × Json)) :
    json ≠ .object rows := by
  cases text with
  | nil => cases h
  | cons c tail =>
      rw [scalar] at h
      split at h
      · next literal hfind =>
          cases h
          exact literals_ne_object rows literal (List.mem_of_find?_eq_some hfind)
      · exact number_ne_object h rows

/-! ## Values -/

/-- What a part of the reader gives on the texts of a length has a property. -/
def Gives {α : Type} (part : Nat → (text : Text) → Part text α) (P : α → Prop)
    (length : Nat) : Prop :=
  ∀ room text result rest, text.length = length → part room text = .ok (result, rest) →
    P result

/-- The values of some members are well formed. -/
def ValuesWellFormed (rows : List (Text × Json)) : Prop :=
  ∀ row ∈ rows, row.2.WellFormed

theorem value_givesWellFormed {length : Nat}
    (hmembers : ∀ shorter < length, Gives members ValuesWellFormed shorter) :
    Gives value WellFormed length := by
  rintro room text json rest rfl h
  rw [value.eq_def] at h
  split at h
  · split at h
    · cases h
    · cases h
      exact .leaf fun rows => Json.noConfusion
  · split at h
    · cases h
    · split at h
      · cases h
        exact .leaf fun rows => Json.noConfusion
      · split at h
        · cases h
        · cases h
          exact .leaf fun rows => Json.noConfusion
  · next rest =>
      split at h
      · cases h
      · split at h
        · cases h
          exact .object List.nodup_nil (List.forall_mem_nil _)
        · split at h
          · cases h
          · next rows _ _ hrows =>
              cases h
              have hshorter := Nat.lt_succ_of_le (length_skipSpace_le rest)
              have honce : (Table.keys (Table.insertAll [] rows)).Nodup :=
                Table.nodup_keys_insertAll (by simp [Table.keys]) rows
              refine .object honce fun row hrow => ?_
              rcases Table.mem_insertAll hrow with hrow | hrow
              · cases hrow
              · exact hmembers _ hshorter _ _ _ _ rfl hrows row hrow
  · exact .leaf (scalar_ne_object h)

theorem members_givesWellFormed {length : Nat}
    (hvalue : ∀ shorter < length, Gives value WellFormed shorter)
    (hmembers : ∀ shorter < length, Gives members ValuesWellFormed shorter) :
    Gives members ValuesWellFormed length := by
  rintro room text rows rest rfl h
  rw [members.eq_def] at h
  split at h
  · next quoted =>
      split at h
      · cases h
      · next key rest hlt _ =>
          have hrest := length_skipSpace_le rest
          split at h
          · next behind hcolon =>
              have hbehind := length_skipSpace_le behind
              rw [hcolon, List.length_cons] at hrest
              split at h
              · cases h
              · next j rest' hlt' hj =>
                  have hwell : j.WellFormed :=
                    hvalue _ (by rw [List.length_cons]; omega) _ _ _ _ rfl hj
                  have hrest' := length_skipSpace_le rest'
                  split at h
                  · cases h
                    exact List.forall_mem_singleton.mpr hwell
                  · next after hcomma =>
                      have hafter := length_skipSpace_le after
                      rw [hcomma, List.length_cons] at hrest'
                      split at h
                      · cases h
                      · next hmore =>
                          cases h
                          refine List.forall_mem_cons.mpr ⟨hwell, ?_⟩
                          refine hmembers _ ?_ _ _ _ _ rfl hmore
                          rw [List.length_cons]
                          omega
                  · cases h
          · cases h
  · cases h

theorem parts_giveWellFormed (length : Nat) :
    Gives value WellFormed length ∧ Gives members ValuesWellFormed length := by
  induction length using Nat.strongRecOn with
  | ind length ih =>
      exact ⟨value_givesWellFormed fun _ h => (ih _ h).2,
        members_givesWellFormed (fun _ h => (ih _ h).1) fun _ h => (ih _ h).2⟩

/-- In a text that is read as a whole every object has each key once. -/
theorem parse_wellFormed {text : Text} {json : Json} (h : parse text = .ok json) :
    json.WellFormed := by
  unfold parse at h
  dsimp only at h
  split at h
  · cases h
  · split at h
    · cases h
    · cases h
    · cases h
    · next hvalue =>
        split at h
        · cases h
          exact (parts_giveWellFormed _).1 _ _ _ _ rfl hvalue
        · cases h

theorem parse_keysOnce {text : Text} {json : Json}
    (h : parse text = .ok json) : json.KeysOnce :=
  (parse_wellFormed h).keysOnce

/-! ## Texts with one member -/

/-- A part of the reader takes a result from the beginning of a text and leaves a rest
of it. -/
def Takes {α : Type} {text : Text} (part : Part text α) (result : α) (rest : Text) :
    Prop :=
  ∃ h, part = .ok (result, ⟨rest, h⟩)

/-- Tests for a character that stands for itself between quotes. -/
def isPlain (c : Char) : Bool := c ≠ '"' ∧ c ≠ '\\' ∧ 0x1F < c.toNat

theorem takes_stringBody (opening : Nat) {t : Text} (ht : t.all isPlain = true)
    (rest : Text) : Takes (stringBody opening (t ++ '"' :: rest)) t rest := by
  induction t with
  | nil =>
      change Takes (stringBody opening ('"' :: rest)) [] rest
      rw [stringBody]
      exact ⟨_, rfl⟩
  | cons c t ih =>
      rw [List.all_cons, Bool.and_eq_true] at ht
      obtain ⟨hplain, htail⟩ := ht
      obtain ⟨hquote, hescape, hprints⟩ := of_decide_eq_true hplain
      obtain ⟨_, hread⟩ := ih htail
      change Takes (stringBody opening (c :: (t ++ '"' :: rest))) (c :: t) rest
      -- the last clause is about `c`, for it is no quote and escapes nothing
      rw [stringBody, if_neg (Nat.not_le.mpr hprints), hread]
      · exact ⟨_, rfl⟩
      · exact hquote
      · exact fun h => absurd h hescape
      · exact fun _ h => absurd h hescape
      · exact fun _ _ h => absurd h hescape

theorem takes_value_string {t : Text} (ht : t.all isPlain = true) (room : Nat)
    (rest : Text) : Takes (value room ('"' :: (t ++ '"' :: rest))) (.string t) rest := by
  obtain ⟨_, hread⟩ := takes_stringBody ((t ++ '"' :: rest).length + 1) ht rest
  rw [value, hread]
  exact ⟨_, rfl⟩

theorem takes_value_scalar {c : Char} {t rest : Text} {json : Json}
    (hc : c ≠ '"' ∧ c ≠ '[' ∧ c ≠ '\x7b') (h : Takes (scalar (c :: t)) json rest)
    (room : Nat) : Takes (value room (c :: t)) json rest := by
  rw [value]
  · exact h
  · exact fun _ heq => hc.1 (List.cons.inj heq).1
  · exact fun _ heq => hc.2.1 (List.cons.inj heq).1
  · exact fun _ heq => hc.2.2 (List.cons.inj heq).1

/-- The only member of an object is read if its key is plain. -/
theorem takes_members_single {key text rest : Text} {json : Json} {room : Nat}
    (hkey : key.all isPlain = true)
    (hvalue : Takes (value room (skipSpace text)) json ('\x7d' :: rest)) :
    Takes (members room ('"' :: (key ++ '"' :: ':' :: text))) [(key, json)] rest := by
  obtain ⟨_, hstring⟩ :=
    takes_stringBody ((key ++ '"' :: ':' :: text).length + 1) hkey (':' :: text)
  obtain ⟨hshorter, hread⟩ := hvalue
  have hskip := length_skipSpace_le text
  rw [members, hstring]
  dsimp only
  split
  · next behind hcolon =>
      obtain rfl : text = behind := (List.cons.inj hcolon).2
      rw [hread]
      refine ⟨?_, rfl⟩
      simp only [List.length_cons, List.length_append] at hshorter ⊢
      omega
  · next hother => exact absurd rfl (hother text)

/-- An object with one member is read if its key is plain and the closing brace comes
right behind its value. -/
theorem parse_of_member {key text : Text} {json : Json} (hkey : key.all isPlain = true)
    (hvalue : Takes (value (maxDepth - 1) (skipSpace text)) json ['\x7d']) :
    parse ('\x7b' :: '"' :: (key ++ '"' :: ':' :: text)) = .ok (.object [(key, json)]) := by
  -- neither the brace nor the quote is a space
  obtain ⟨_, hmembers⟩ :
      Takes (members (maxDepth - 1) (skipSpace ('"' :: (key ++ '"' :: ':' :: text))))
        [(key, json)] [] :=
    takes_members_single hkey hvalue
  obtain ⟨_, hobject⟩ :
      Takes (value maxDepth (skipSpace ('\x7b' :: '"' :: (key ++ '"' :: ':' :: text))))
        (.object [(key, json)]) [] := by
    change Takes (value maxDepth ('\x7b' :: '"' :: (key ++ '"' :: ':' :: text))) _ _
    rw [value, if_neg (by decide)]
    split
    · next hbrace => exact absurd (List.cons.inj hbrace).1 (by decide)
    · rw [hmembers]
      exact ⟨Nat.succ_pos _, rfl⟩
  rw [parse, if_neg]
  · rw [hobject]
    rfl
  · exact fun h => absurd (Option.some.inj h) (by decide)

end DiagnosticConsole.Json
