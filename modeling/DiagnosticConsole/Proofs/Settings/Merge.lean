import DiagnosticConsole.Proofs.Table
import DiagnosticConsole.Settings.Merge

/-!
# Merging, key by key

What merged members have at a key depends on what the two sides have at that
key, and on nothing else they have. This is what lets the layers of settings be
looked at one key at a time.
-/

namespace DiagnosticConsole.Settings

/-- What there is at a key where the one side is put over the other. -/
def overlay : Option Json → Option Json → Option Json
  | none, lower => lower
  | some .null, lower => lower
  | some (.object upper), some (.object lower) =>
      some (.object (merge lower upper))
  | some value, _ => some value

theorem merge_cons_null {base : List (Text × Json)} {key : Text}
    {rest : List (Text × Json)} :
    merge base ((key, .null) :: rest) = merge base rest := by
  rw [merge]

/-- A member that overrides is set to what it makes of the member there. -/
theorem merge_cons_of_not_null {base : List (Text × Json)} {key : Text}
    {value : Json} {rest : List (Text × Json)} (hvalue : value ≠ .null) :
    ∃ result, overlay (some value) (Table.get? base key) = some result ∧
      merge base ((key, value) :: rest) =
        merge (Table.insert base key result) rest := by
  cases value with
  | null => exact absurd rfl hvalue
  | object upper =>
      rw [merge]
      split
      · next lower hlower =>
          exact ⟨.object (merge lower upper), by rw [hlower, overlay], rfl⟩
      · next hlower =>
          refine ⟨.object upper, ?_, rfl⟩
          rw [overlay]
          · exact hvalue
          · exact fun _ lower heq _ => hlower lower heq
  | bool b => exact ⟨.bool b, by simp [overlay], by simp [merge]⟩
  | integer n => exact ⟨.integer n, by simp [overlay], by simp [merge]⟩
  | numeral t => exact ⟨.numeral t, by simp [overlay], by simp [merge]⟩
  | string t => exact ⟨.string t, by simp [overlay], by simp [merge]⟩
  | array items => exact ⟨.array items, by simp [overlay], by simp [merge]⟩

/-- The members that override are taken one after the other, and each key comes
once among them: so only the step at the key matters. -/
theorem get?_merge {base overrides : List (Text × Json)}
    (honce : (Table.keys overrides).Nodup) (key : Text) :
    Table.get? (merge base overrides) key =
      overlay (Table.get? overrides key) (Table.get? base key) := by
  induction overrides generalizing base with
  | nil => rw [merge, Table.get?, overlay]
  | cons row rest ih =>
      obtain ⟨k, value⟩ := row
      obtain ⟨hfresh, hrest⟩ := List.nodup_cons.mp honce
      by_cases hnull : value = .null
      · subst hnull
        rw [merge_cons_null, ih hrest, Table.get?]
        split
        · next hk =>
            subst hk
            rw [Table.get?_of_not_mem hfresh, overlay, overlay]
        · rfl
      · obtain ⟨result, hover, hmerge⟩ := merge_cons_of_not_null hnull
        rw [hmerge, ih hrest, Table.get?_insert, Table.get?]
        split
        · next hk =>
            subst hk
            rw [Table.get?_of_not_mem hfresh, hover, overlay]
        · rfl

/-! ## The keys of merged members -/

theorem nodup_keys_merge {base : List (Text × Json)}
    (hbase : (Table.keys base).Nodup) (overrides : List (Text × Json)) :
    (Table.keys (merge base overrides)).Nodup := by
  induction overrides generalizing base with
  | nil =>
      rw [merge]
      exact hbase
  | cons row rest ih =>
      obtain ⟨key, value⟩ := row
      by_cases hnull : value = .null
      · subst hnull
        rw [merge_cons_null]
        exact ih hbase
      · obtain ⟨result, -, hmerge⟩ := merge_cons_of_not_null hnull
        rw [hmerge]
        exact ih (Table.nodup_keys_insert hbase key result)

/-- Members that bring no new key leave the keys as they are, in their order. -/
theorem keys_merge_of_mem {base overrides : List (Text × Json)}
    (h : ∀ row ∈ overrides, row.2 ≠ .null → row.1 ∈ Table.keys base) :
    Table.keys (merge base overrides) = Table.keys base := by
  induction overrides generalizing base with
  | nil => rw [merge]
  | cons row rest ih =>
      obtain ⟨key, value⟩ := row
      obtain ⟨hrow, hrest⟩ := List.forall_mem_cons.mp h
      by_cases hnull : value = .null
      · subst hnull
        rw [merge_cons_null]
        exact ih hrest
      · obtain ⟨result, -, hmerge⟩ := merge_cons_of_not_null hnull
        have hinsert := Table.keys_insert_of_mem result (hrow hnull)
        rw [hmerge, ih (by rw [hinsert]; exact hrest), hinsert]

theorem exists_overlay_iff {upper lower : Option Json} :
    (∃ value, overlay upper lower = some value)
      ↔ (∃ value, lower = some value)
        ∨ ∃ value, upper = some value ∧ value ≠ .null := by
  cases upper with
  | none => simp [overlay]
  | some value =>
      cases value with
      | null => simp [overlay]
      | object rows =>
          cases lower with
          | none => simp [overlay]
          | some value => cases value <;> simp [overlay]
      | bool | integer | numeral | string | array => simp [overlay]

/-- Merged members have the keys of the one side, and those at which the other one
overrides. -/
theorem mem_keys_merge {base overrides : List (Text × Json)}
    (honce : (Table.keys overrides).Nodup) {key : Text} :
    key ∈ Table.keys (merge base overrides)
      ↔ key ∈ Table.keys base
        ∨ ∃ value, Table.get? overrides key = some value ∧ value ≠ .null := by
  rw [Table.mem_keys_iff, get?_merge honce, exists_overlay_iff, ← Table.mem_keys_iff]

end DiagnosticConsole.Settings
