import DiagnosticConsole.Proofs.Json.Reader
import DiagnosticConsole.Proofs.Settings.Merge
import Mathlib.Data.List.Nodup

/-!
# Merging once is merging for good

Putting members over others a second time changes nothing, and neither does putting
members over themselves. Both come down to one fact: members that make nothing new of
what there is at any key leave the whole as it is (`merge_eq_base`). At a key the two
sides may hold objects, and then the fact is needed again one level down, so each of
the two is an induction over the values that override. What takes the place of
something that is no object is put over itself the second time; so the induction
for members over themselves comes first.
-/

namespace DiagnosticConsole.Settings

variable {base overrides : List (Text × Json)}

/-- Members that make nothing new of what there is at any key change nothing. -/
theorem merge_eq_base (hbase : (Table.keys base).Nodup)
    (honce : (Table.keys overrides).Nodup)
    (h : ∀ key, overlay (Table.get? overrides key) (Table.get? base key)
      = Table.get? base key) : merge base overrides = base := by
  have hkeys : Table.keys (merge base overrides) = Table.keys base := by
    refine keys_merge_of_mem fun row hrow hnull => ?_
    have hget : Table.get? overrides row.1 = some row.2 :=
      (Table.get?_eq_some_iff honce).mpr hrow
    rw [Table.mem_keys_iff, ← h row.1, exists_overlay_iff]
    exact .inr ⟨row.2, hget, hnull⟩
  refine Table.eq_of_keys_of_get? hbase hkeys fun key _ => ?_
  rw [get?_merge honce, h key]

theorem overlay_object_of_not_object {upper : List (Text × Json)}
    {lower : Option Json} (h : ∀ rows, lower ≠ some (.object rows)) :
    overlay (some (.object upper)) lower = some (.object upper) := by
  cases lower with
  | none => rw [overlay]; all_goals simp
  | some value =>
      cases value with
      | object rows => exact absurd rfl (h rows)
      | null | bool | integer | numeral | string | array => simp [overlay]

/-! ## Members over themselves -/

theorem overlay_self {value : Json} (h : value.WellFormed) :
    overlay (some value) (some value) = some value := by
  induction h with
  | @leaf value hleaf =>
      cases value with
      | object rows => exact absurd rfl (hleaf rows)
      | null | bool | integer | numeral | string | array => simp [overlay]
  | @object rows once parts ih =>
      have hrows : merge rows rows = rows := by
        refine merge_eq_base once once fun key => ?_
        cases hget : Table.get? rows key with
        | none => rw [overlay]
        | some value => exact ih (key, value) ((Table.get?_eq_some_iff once).mp hget)
      rw [overlay, hrows]

theorem merge_self {rows : List (Text × Json)} (h : (Json.object rows).WellFormed) :
    merge rows rows = rows := by
  have hself := overlay_self h
  rw [overlay] at hself
  exact Json.object.inj (Option.some.inj hself)

/-! ## Members over what they were put over -/

theorem overlay_overlay {upper : Json} (hupper : upper.WellFormed)
    {lower : Option Json} (hlower : ∀ value, lower = some value → value.WellFormed) :
    overlay (some upper) (overlay (some upper) lower) = overlay (some upper) lower := by
  induction hupper generalizing lower with
  | @leaf upper hleaf =>
      cases upper with
      | object rows => exact absurd rfl (hleaf rows)
      | null | bool | integer | numeral | string | array => simp [overlay]
  | @object rows once parts ih =>
      by_cases hobject : ∃ rows', lower = some (.object rows')
      · obtain ⟨rows', rfl⟩ := hobject
        have hrows' := hlower _ rfl
        have hmerge : merge (merge rows' rows) rows = merge rows' rows := by
          refine merge_eq_base (nodup_keys_merge hrows'.once rows) once fun key => ?_
          rw [get?_merge once]
          cases hget : Table.get? rows key with
          | none => rw [overlay]
          | some value =>
              have hrow := (Table.get?_eq_some_iff once).mp hget
              exact ih (key, value) hrow fun value' hvalue' => hrows'.of_get? hvalue'
        rw [overlay, overlay, hmerge]
      · -- what is no object was replaced, so the object is put over itself
        rw [overlay_object_of_not_object fun rows' h => hobject ⟨rows', h⟩]
        exact overlay_self (.object once parts)

theorem merge_merge {base overrides : List (Text × Json)}
    (hbase : (Json.object base).WellFormed)
    (hoverrides : (Json.object overrides).WellFormed) :
    merge (merge base overrides) overrides = merge base overrides := by
  have htwice : overlay (some (.object overrides))
      (overlay (some (.object overrides)) (some (.object base)))
        = overlay (some (.object overrides)) (some (.object base)) :=
    overlay_overlay hoverrides fun value hvalue => Option.some.inj hvalue ▸ hbase
  rw [overlay, overlay] at htwice
  exact Json.object.inj (Option.some.inj htwice)

/-! ## What merged members are -/

theorem overlay_wellFormed {upper : Json} (hupper : upper.WellFormed)
    {lower : Option Json} (hlower : ∀ value, lower = some value → value.WellFormed) :
    ∀ value, overlay (some upper) lower = some value → value.WellFormed := by
  induction hupper generalizing lower with
  | @leaf upper hleaf =>
      intro value hvalue
      cases upper with
      | object rows => exact absurd rfl (hleaf rows)
      | null =>
          rw [overlay] at hvalue
          exact hlower value hvalue
      | bool | integer | numeral | string | array =>
          simp only [overlay, Option.some.injEq] at hvalue
          exact hvalue ▸ .leaf hleaf
  | @object rows once parts ih =>
      intro value hvalue
      by_cases hobject : ∃ rows', lower = some (.object rows')
      · obtain ⟨rows', rfl⟩ := hobject
        have hrows' := hlower _ rfl
        rw [overlay] at hvalue
        obtain rfl := Option.some.inj hvalue
        have hmerge := nodup_keys_merge hrows'.once rows
        refine .object hmerge fun row hrow => ?_
        have hget := (Table.get?_eq_some_iff hmerge).mpr hrow
        rw [get?_merge once] at hget
        have hlower' : ∀ value, Table.get? rows' row.1 = some value → value.WellFormed :=
          fun value hvalue => hrows'.of_get? hvalue
        cases hupper : Table.get? rows row.1 with
        | none =>
            rw [hupper, overlay] at hget
            exact hlower' row.2 hget
        | some value =>
            rw [hupper] at hget
            exact ih (row.1, value) ((Table.get?_eq_some_iff once).mp hupper) hlower'
              row.2 hget
      · rw [overlay_object_of_not_object fun rows' h => hobject ⟨rows', h⟩] at hvalue
        exact Option.some.inj hvalue ▸ .object once parts

theorem merge_wellFormed (hbase : (Json.object base).WellFormed)
    (hoverrides : (Json.object overrides).WellFormed) :
    (Json.object (merge base overrides)).WellFormed :=
  overlay_wellFormed hoverrides (fun value hvalue => Option.some.inj hvalue ▸ hbase) _
    (by rw [overlay])

/-- The members of the object that keys lead to, one after the other. -/
def membersAt? (members : Table Json) : List Text → Option (Table Json)
  | [] => some members
  | key :: path =>
      match Table.get? members key with
      | some (.object rows) => membersAt? rows path
      | _ => none

theorem membersAt?_cons_eq_some_iff {members inner : Table Json} {key : Text}
    {path : List Text} :
    membersAt? members (key :: path) = some inner
      ↔ ∃ rows, Table.get? members key = some (.object rows)
        ∧ membersAt? rows path = some inner := by
  rw [membersAt?]
  split
  · next rows hrows => simp [hrows]
  · next hnone =>
      constructor
      · intro h
        cases h
      · rintro ⟨rows, hrows, -⟩
        exact absurd hrows (hnone rows)

/-- Where both sides have objects along a path, the objects at its end are merged. -/
theorem membersAt?_merge {lower upper : Table Json} {path : List Text}
    (hbase : (Json.object base).WellFormed)
    (hoverrides : (Json.object overrides).WellFormed)
    (hlower : membersAt? base path = some lower)
    (hupper : membersAt? overrides path = some upper) :
    membersAt? (merge base overrides) path = some (merge lower upper)
      ∧ (Json.object lower).WellFormed ∧ (Json.object upper).WellFormed := by
  induction path generalizing base overrides with
  | nil =>
      obtain rfl := Option.some.inj hlower
      obtain rfl := Option.some.inj hupper
      exact ⟨rfl, hbase, hoverrides⟩
  | cons key path ih =>
      obtain ⟨rows, hrows, hlower⟩ := membersAt?_cons_eq_some_iff.mp hlower
      obtain ⟨rows', hrows', hupper⟩ := membersAt?_cons_eq_some_iff.mp hupper
      obtain ⟨hinner, hwell⟩ :=
        ih (hbase.of_get? hrows) (hoverrides.of_get? hrows') hlower hupper
      refine ⟨membersAt?_cons_eq_some_iff.mpr ⟨merge rows rows', ?_, hinner⟩, hwell⟩
      rw [get?_merge hoverrides.once, hrows, hrows', overlay]

/-- Members as they are once others were put over them. -/
structure Overridden (lower upper merged : Table Json) : Prop where
  mem_keys_iff : ∀ key, key ∈ Table.keys merged
    ↔ key ∈ Table.keys lower ∨ ∃ value, Table.get? upper key = some value ∧ value ≠ .null
  /-- What is absent or null overrides nothing. -/
  kept : ∀ key, (∀ value, Table.get? upper key = some value → value = .null) →
    Table.get? merged key = Table.get? lower key
  won : ∀ key value, Table.get? upper key = some value → value ≠ .null →
    (∀ rows, value ≠ .object rows) → Table.get? merged key = some value
  /-- An object takes the place of what is no object, with the nulls inside of it. -/
  replaced : ∀ key rows, Table.get? upper key = some (.object rows) →
    (∀ rows', Table.get? lower key ≠ some (.object rows')) →
    Table.get? merged key = some (.object rows)

theorem overridden_merge {lower upper : Table Json} (honce : (Table.keys upper).Nodup) :
    Overridden lower upper (merge lower upper) where
  mem_keys_iff key := mem_keys_merge honce
  kept key hnull := by
    rw [get?_merge honce]
    cases hvalue : Table.get? upper key with
    | none => rw [overlay]
    | some value =>
        obtain rfl := hnull value hvalue
        rw [overlay]
  won key value hvalue hnull hobject := by
    rw [get?_merge honce, hvalue]
    cases value with
    | null => exact absurd rfl hnull
    | object rows => exact absurd rfl (hobject rows)
    | bool | integer | numeral | string | array => simp [overlay]
  replaced key rows hrows hlower := by
    rw [get?_merge honce, hrows, overlay_object_of_not_object hlower]

/-- Merging absorbs: the same members put over what they were put over, members put
over themselves and no members at all change nothing. Merged members are well
formed again, and wherever both sides have objects, what is there is what the one side
has, overridden by what the other one gives and does not leave null. -/
theorem merge_absorbs (hbase : (Json.object base).WellFormed)
    (hoverrides : (Json.object overrides).WellFormed) :
    merge (merge base overrides) overrides = merge base overrides
      ∧ merge base base = base
      ∧ merge base [] = base
      ∧ (Json.object (merge base overrides)).WellFormed
      ∧ ∀ path lower upper, membersAt? base path = some lower →
        membersAt? overrides path = some upper →
        membersAt? (merge base overrides) path = some (merge lower upper)
          ∧ Overridden lower upper (merge lower upper) := by
  refine ⟨merge_merge hbase hoverrides, merge_self hbase, by rw [merge],
    merge_wellFormed hbase hoverrides, ?_⟩
  intro path lower upper hlower hupper
  obtain ⟨hmembers, -, hwell⟩ := membersAt?_merge hbase hoverrides hlower hupper
  exact ⟨hmembers, overridden_merge hwell.once⟩

/-- An object merged with an object below a key, an object that takes the place of a
number with the null inside of it, and a null that leaves an object. -/
theorem merge_absorbs_nested :
    let base : Table Json :=
      [(['a'], .object [(['p'], .integer 1), (['q'], .null)]), (['b'], .integer 5),
       (['c'], .object [(['m'], .array [.null])])]
    let overrides : Table Json :=
      [(['a'], .object [(['r'], .null), (['q'], .integer 2)]),
       (['b'], .object [(['n'], .null)]), (['c'], .null), (['d'], .null)]
    let merged : Table Json :=
      [(['a'], .object [(['p'], .integer 1), (['q'], .integer 2)]),
       (['b'], .object [(['n'], .null)]), (['c'], .object [(['m'], .array [.null])])]
    (Json.object base).WellFormed ∧ (Json.object overrides).WellFormed
      ∧ merge base overrides = merged
      ∧ merge merged overrides = merged
      ∧ merge base base = base
      ∧ membersAt? merged [['a']] = some [(['p'], .integer 1), (['q'], .integer 2)] := by
  intro base overrides merged
  have hnull : Json.null.WellFormed := .leaf fun rows => Json.noConfusion
  have hinteger : ∀ n, (Json.integer n).WellFormed :=
    fun n => .leaf fun rows => Json.noConfusion
  have harray : (Json.array [.null]).WellFormed := .leaf fun rows => Json.noConfusion
  have hone : ∀ key value, value.WellFormed → (Json.object [(key, value)]).WellFormed :=
    fun key value h => .object (List.nodup_singleton key) (List.forall_mem_singleton.mpr h)
  have hpair : ∀ key key' value value', key ≠ key' → value.WellFormed →
      value'.WellFormed → (Json.object [(key, value), (key', value')]).WellFormed := by
    intro key key' value value' hne h h'
    refine .object ?_ (List.forall_mem_cons.mpr ⟨h, List.forall_mem_singleton.mpr h'⟩)
    exact List.nodup_cons.mpr
      ⟨fun hmem => hne (List.mem_singleton.mp hmem), List.nodup_singleton key'⟩
  have hbase : (Json.object base).WellFormed := by
    refine .object (by decide) (List.forall_mem_cons.mpr ⟨?_, List.forall_mem_cons.mpr
      ⟨hinteger 5, List.forall_mem_singleton.mpr (hone ['m'] _ harray)⟩⟩)
    exact hpair ['p'] ['q'] _ _ (by decide) (hinteger 1) hnull
  have hoverrides : (Json.object overrides).WellFormed := by
    refine .object (by decide) (List.forall_mem_cons.mpr ⟨?_, List.forall_mem_cons.mpr
      ⟨hone ['n'] _ hnull, List.forall_mem_cons.mpr
        ⟨hnull, List.forall_mem_singleton.mpr hnull⟩⟩⟩)
    exact hpair ['r'] ['q'] _ _ (by decide) hnull (hinteger 2)
  have hmerged : merge base overrides = merged := by
    simp [base, overrides, merged, merge, Table.get?, Table.insert]
  obtain ⟨htwice, hself, -, -, hinner⟩ := merge_absorbs hbase hoverrides
  rw [hmerged] at htwice
  obtain ⟨hmembers, -⟩ := hinner [['a']] _ _ rfl rfl
  have hbelow : merge [(['p'], .integer 1), (['q'], .null)]
      [(['r'], .null), (['q'], .integer 2)]
        = [(['p'], .integer 1), (['q'], .integer 2)] := by
    simp [merge, Table.insert]
  rw [hmerged, hbelow] at hmembers
  exact ⟨hbase, hoverrides, hmerged, htwice, hself, hmembers⟩

end DiagnosticConsole.Settings
