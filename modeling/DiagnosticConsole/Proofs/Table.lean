import DiagnosticConsole.Table

/-!
# Tables as maps

A table that has each key once is a map: what it has at a key is the value of
the one row with that key. A key that was not there comes last, so as long as
only new keys are set, a table does nothing but grow at its end. Setting a key
changes what is at that key and nowhere else, and makes no key come twice.
-/

namespace DiagnosticConsole.Table

variable {α : Type}

/-- A table that has each key once has at a key just the value of its row. -/
theorem get?_eq_some_iff {table : Table α} (hnodup : (keys table).Nodup)
    {key : Text} {value : α} :
    get? table key = some value ↔ (key, value) ∈ table := by
  induction table with
  | nil => simp [get?]
  | cons row rest ih =>
      obtain ⟨k, v⟩ := row
      obtain ⟨hfresh, hrest⟩ := List.nodup_cons.mp hnodup
      rw [get?, List.mem_cons, Prod.mk.injEq]
      by_cases hk : k = key
      · subst hk
        have hnot : (k, value) ∉ rest := fun hmem =>
          hfresh (List.mem_map.mpr ⟨(k, value), hmem, rfl⟩)
        simp [hnot, eq_comm]
      · rw [if_neg hk, ih hrest]
        simp [Ne.symm hk]

theorem insert_of_not_mem {table : Table α} {key : Text} (value : α)
    (h : key ∉ keys table) :
    insert table key value = table ++ [(key, value)] := by
  induction table with
  | nil => rfl
  | cons row rest ih =>
      obtain ⟨k, v⟩ := row
      rw [keys, List.map_cons, List.mem_cons, not_or] at h
      rw [insert, if_neg (Ne.symm h.1), ih h.2]
      rfl

theorem get?_of_not_mem {table : Table α} {key : Text}
    (h : key ∉ keys table) : get? table key = none := by
  induction table with
  | nil => rfl
  | cons row rest ih =>
      obtain ⟨k, v⟩ := row
      rw [keys, List.map_cons, List.mem_cons, not_or] at h
      rw [get?, if_neg (Ne.symm h.1), ih h.2]

theorem mem_keys_iff {table : Table α} {key : Text} :
    key ∈ keys table ↔ ∃ value, get? table key = some value := by
  induction table with
  | nil => simp [keys, get?]
  | cons row rest ih =>
      obtain ⟨k, v⟩ := row
      rw [keys, List.map_cons, List.mem_cons, get?]
      by_cases hk : k = key
      · simp [hk]
      · rw [if_neg hk, ← ih]
        exact or_iff_right (Ne.symm hk)

theorem keys_insert_of_mem {table : Table α} {key : Text} (value : α)
    (h : key ∈ keys table) : keys (insert table key value) = keys table := by
  induction table with
  | nil => cases h
  | cons row rest ih =>
      obtain ⟨k, v⟩ := row
      rw [keys, List.map_cons, List.mem_cons] at h
      rw [insert]
      split
      · rfl
      · next hk =>
          have hrest := ih (h.resolve_left (Ne.symm hk))
          rw [keys, keys] at hrest
          rw [keys, keys, List.map_cons, List.map_cons, hrest]

/-- A table that has each key once is settled by its keys in their order and by what
it has at each of them. -/
theorem eq_of_keys_of_get? {table table' : Table α} (hnodup : (keys table).Nodup)
    (hkeys : keys table' = keys table)
    (hget : ∀ key ∈ keys table, get? table' key = get? table key) :
    table' = table := by
  induction table generalizing table' with
  | nil => exact List.map_eq_nil_iff.mp hkeys
  | cons row rest ih =>
      obtain ⟨k, v⟩ := row
      cases table' with
      | nil => cases hkeys
      | cons row' rest' =>
          obtain ⟨k', v'⟩ := row'
          obtain ⟨hk, hbelow⟩ := List.cons.inj hkeys
          obtain rfl : k = k' := hk.symm
          obtain ⟨hfresh, hrest⟩ := List.nodup_cons.mp hnodup
          have hhead := hget k List.mem_cons_self
          rw [get?, get?, if_pos rfl, if_pos rfl] at hhead
          obtain rfl := Option.some.inj hhead
          have htail : rest' = rest := by
            refine ih hrest hbelow fun key hkey => ?_
            -- below the first row its key is not asked for
            have hne : k ≠ key := fun heq => hfresh (heq ▸ hkey)
            have hother := hget key (List.mem_cons_of_mem _ hkey)
            rw [get?, get?, if_neg hne, if_neg hne] at hother
            exact hother
          rw [htail]

theorem get?_insert (table : Table α) (key : Text) (value : α) (other : Text) :
    get? (insert table key value) other =
      if key = other then some value else get? table other := by
  induction table with
  | nil => rfl
  | cons row rest ih =>
      obtain ⟨k, v⟩ := row
      rw [insert]
      split
      · next hk =>
          subst hk
          rw [get?, get?]
          split <;> rfl
      · next hk =>
          rw [get?, get?, ih]
          by_cases ho : k = other
          · subst ho
            rw [if_pos rfl, if_neg (Ne.symm hk), if_pos rfl]
          · rw [if_neg ho, if_neg ho]

theorem mem_keys_insert {table : Table α} {key : Text} {value : α}
    {other : Text} :
    other ∈ keys (insert table key value) ↔ other = key ∨ other ∈ keys table := by
  induction table with
  | nil => simp [insert, keys]
  | cons row rest ih =>
      obtain ⟨k, v⟩ := row
      rw [insert]
      split
      · next hk =>
          subst hk
          simp only [keys, List.map_cons, List.mem_cons, or_self_left]
      · simp only [keys, List.map_cons, List.mem_cons] at ih ⊢
        rw [ih]
        exact or_left_comm

theorem nodup_keys_insert {table : Table α} (h : (keys table).Nodup)
    (key : Text) (value : α) : (keys (insert table key value)).Nodup := by
  induction table with
  | nil => simp [insert, keys]
  | cons row rest ih =>
      obtain ⟨k, v⟩ := row
      obtain ⟨hfresh, hrest⟩ := List.nodup_cons.mp h
      rw [insert]
      split
      · next hk =>
          subst hk
          exact h
      · next hk =>
          refine List.nodup_cons.mpr ⟨fun hmem => ?_, ih hrest⟩
          rcases mem_keys_insert.mp hmem with heq | hmem
          · exact hk heq
          · exact hfresh hmem

/-- A table made by setting one row after the other has each key once. -/
theorem nodup_keys_insertAll {table : Table α} (h : (keys table).Nodup)
    (rows : List (Text × α)) : (keys (insertAll table rows)).Nodup := by
  induction rows generalizing table with
  | nil => exact h
  | cons row rest ih => exact ih (nodup_keys_insert h row.1 row.2)

theorem mem_insert {table : Table α} {key : Text} {value : α} {row : Text × α}
    (h : row ∈ insert table key value) : row ∈ table ∨ row = (key, value) := by
  induction table with
  | nil => exact .inr (List.mem_singleton.mp h)
  | cons first rest ih =>
      rw [insert] at h
      split at h
      · next hk =>
          rcases List.mem_cons.mp h with rfl | h
          · exact .inr (by rw [hk])
          · exact .inl (List.mem_cons_of_mem _ h)
      · rcases List.mem_cons.mp h with rfl | h
        · exact .inl List.mem_cons_self
        · exact (ih h).imp_left (List.mem_cons_of_mem _)

theorem mem_insertAll {table : Table α} {rows : List (Text × α)} {row : Text × α}
    (h : row ∈ insertAll table rows) : row ∈ table ∨ row ∈ rows := by
  induction rows generalizing table with
  | nil => exact .inl h
  | cons first rest ih =>
      have hrest : row ∈ insertAll (insert table first.1 first.2) rest := h
      rcases ih hrest with hmem | hmem
      · rcases mem_insert hmem with hmem | rfl
        · exact .inl hmem
        · exact .inr List.mem_cons_self
      · exact .inr (List.mem_cons_of_mem _ hmem)

end DiagnosticConsole.Table
