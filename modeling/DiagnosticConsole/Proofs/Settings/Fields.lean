import DiagnosticConsole.Settings.Basic
import Mathlib.Data.List.Count

/-!
# Settings, field by field

Reading the settings off the members of an object is a run over the fields, and
no step of it touches more than its own field: neither the other values nor the
notices about other fields. So what becomes of a field depends on the one member
with its key.
-/

namespace DiagnosticConsole.Settings

variable {members : Table Json} {s s' : Settings} {field other : Field}

theorem Field.mem_all (field : Field) : field ∈ Field.all := by
  cases field <;> decide

theorem Field.nodup_all : Field.all.Nodup := by decide

theorem Field.wrongKind_injective {field other : Field}
    (h : wrongKind field = wrongKind other) : field = other := by
  have hall : ∀ f ∈ Field.all, ∀ g ∈ Field.all,
      wrongKind f = wrongKind g → f = g := by
    decide +kernel
  exact hall field field.mem_all other other.mem_all h

theorem eq_of_get (h : ∀ field, s.get field = s'.get field) : s = s' := by
  obtain ⟨_, _, _, _, _, _, _⟩ := s
  obtain ⟨_, _, _, _, _, _, _⟩ := s'
  rw [Settings.mk.injEq]
  exact ⟨h .pageWidth, h .prompt, h .continuationPrompt, h .color, h .language,
    h .explain, h .debug⟩

@[simp] theorem get_set_self (s : Settings) (field : Field)
    (x : field.kind.Value) : (s.set field x).get field = x := by
  cases field <;> rfl

theorem get_set_of_ne (h : other ≠ field) (s : Settings)
    (x : field.kind.Value) : (s.set field x).get other = s.get other := by
  cases field <;> cases other <;> first | rfl | exact absurd rfl h

theorem Kind.ofJson?_eq_some_iff {kind : Kind} {value : Json} {x : kind.Value} :
    kind.ofJson? value = some x ↔ value = kind.toJson x := by
  cases kind <;> cases value <;> simp [Kind.ofJson?, Kind.toJson]

theorem Kind.toJson_injective {kind : Kind} {x y : kind.Value}
    (h : kind.toJson x = kind.toJson y) : x = y := by
  have hx := Kind.ofJson?_eq_some_iff.mpr h
  rw [Kind.ofJson?_eq_some_iff.mpr rfl] at hx
  exact (Option.some.inj hx)

/-- The value at a key, of which a null is none. -/
def given? (members : Table Json) (key : Text) : Option Json :=
  (Table.get? members key).filter fun value => !value.isNull

/-- What becomes of a field for which a value is given or none, and whether what
is given is ignored. -/
inductive Settles (field : Field) : Option Json → field.kind.Value → Bool → Prop
  | unset : Settles field none (({} : Settings).get field) false
  | given (x : field.kind.Value) : Settles field (some (field.kind.toJson x)) x false
  | ignored {value : Json} (h : ∀ x, value ≠ field.kind.toJson x) :
      Settles field (some value) (({} : Settings).get field) true

theorem Settles.unique {value : Option Json} {x y : field.kind.Value}
    {ignored ignored' : Bool} (h : Settles field value x ignored)
    (h' : Settles field value y ignored') : x = y ∧ ignored = ignored' := by
  cases h with
  | unset => cases h'; exact ⟨rfl, rfl⟩
  | given x =>
      generalize hvalue : some (field.kind.toJson x) = value at h'
      cases h' with
      | unset => cases hvalue
      | given y => exact ⟨Kind.toJson_injective (Option.some.inj hvalue), rfl⟩
      | ignored hnone => exact absurd (Option.some.inj hvalue).symm (hnone x)
  | ignored hnone =>
      generalize hvalue : some _ = value at h'
      cases h' with
      | unset => cases hvalue
      | given y => exact absurd (Option.some.inj hvalue) (hnone y)
      | ignored _ => exact ⟨rfl, rfl⟩

theorem read_of_ne (h : other ≠ field) (members : Table Json) (s : Settings) :
    (read members s field).1.get other = s.get other ∧
      (read members s field).2.count (wrongKind other) = 0 := by
  rw [read]
  split
  · exact ⟨rfl, rfl⟩
  · exact ⟨rfl, rfl⟩
  · split
    · exact ⟨get_set_of_ne h s _, rfl⟩
    · refine ⟨rfl, List.count_eq_zero.mpr fun hmem => ?_⟩
      exact h (Field.wrongKind_injective (List.mem_singleton.mp hmem))

/-- A step settles its field, if that is still at its default. -/
theorem read_settles (members : Table Json)
    (hs : s.get field = ({} : Settings).get field) :
    ∃ ignored,
      Settles field (given? members field.key)
        ((read members s field).1.get field) ignored ∧
      (read members s field).2.count (wrongKind field) =
        if ignored then 1 else 0 := by
  rw [read, given?]
  split
  · next hmember =>
      rw [hmember, hs]
      exact ⟨false, .unset, rfl⟩
  · next hmember =>
      rw [hmember, hs]
      exact ⟨false, .unset, rfl⟩
  · next value hnull hmember =>
      have hgiven : (some value).filter (fun v => !v.isNull) = some value := by
        cases value <;> first | rfl | exact absurd rfl hnull
      rw [hmember, hgiven]
      split
      · next x hx =>
          rw [Kind.ofJson?_eq_some_iff.mp hx, get_set_self]
          exact ⟨false, .given x, rfl⟩
      · next hx =>
          refine ⟨true, ?_, by simp⟩
          rw [hs]
          exact .ignored fun x heq => by
            rw [Kind.ofJson?_eq_some_iff.mpr heq] at hx
            cases hx

theorem readAll_of_not_mem {fields : List Field} (h : field ∉ fields)
    (members : Table Json) (s : Settings) :
    (readAll members s fields).1.get field = s.get field ∧
      (readAll members s fields).2.count (wrongKind field) = 0 := by
  induction fields generalizing s with
  | nil => exact ⟨rfl, rfl⟩
  | cons f rest ih =>
      rw [List.mem_cons, not_or] at h
      obtain ⟨hget, hcount⟩ := read_of_ne h.1 members s
      obtain ⟨ihget, ihcount⟩ := ih h.2 (read members s f).1
      exact ⟨ihget.trans hget, by rw [readAll, List.count_append, hcount, ihcount]⟩

theorem readAll_settles {fields : List Field} (hnodup : fields.Nodup)
    (hmem : field ∈ fields) (hs : s.get field = ({} : Settings).get field) :
    ∃ ignored,
      Settles field (given? members field.key)
        ((readAll members s fields).1.get field) ignored ∧
      (readAll members s fields).2.count (wrongKind field) =
        if ignored then 1 else 0 := by
  induction fields generalizing s with
  | nil => cases hmem
  | cons f rest ih =>
      obtain ⟨hfresh, hrest⟩ := List.nodup_cons.mp hnodup
      rw [readAll]
      by_cases hf : field = f
      · -- The steps after its own do not touch the field any more.
        subst hf
        obtain ⟨ignored, hsettles, hcount⟩ := read_settles members hs
        obtain ⟨hget, hnone⟩ :=
          readAll_of_not_mem hfresh members (read members s field).1
        refine ⟨ignored, ?_, ?_⟩
        · rw [hget]
          exact hsettles
        · rw [List.count_append, hcount, hnone, Nat.add_zero]
      · -- A step before its own leaves it at its default.
        obtain ⟨hget, hnone⟩ := read_of_ne hf members s
        obtain ⟨ignored, hsettles, hcount⟩ :=
          ih hrest ((List.mem_cons.mp hmem).resolve_left hf) (hget.trans hs)
        exact ⟨ignored, hsettles, by rw [List.count_append, hnone, hcount, Nat.zero_add]⟩

theorem ofMembers_settles (members : Table Json) (field : Field) :
    ∃ ignored,
      Settles field (given? members field.key)
        ((ofMembers members).1.get field) ignored ∧
      (ofMembers members).2.count (wrongKind field) =
        if ignored then 1 else 0 :=
  readAll_settles Field.nodup_all field.mem_all rfl

end DiagnosticConsole.Settings
