import DiagnosticConsole.Command.Invocation
import Mathlib.Data.List.Perm.Basic

/-!
# Calls to check files

Options and files of a call are told apart first; after that the files are looked
at one after the other, and all that is asked of one is that it is no directory
and that its path is one. So a call to check files can be made with the files in
any order, if it can be made in one (`invocationOf_perm`).
-/

namespace DiagnosticConsole.Command

theorem checkable_eq_ok_iff {files : FileSystem} {paths : List Text} :
    checkable files paths = .ok ()
      ↔ ∀ path ∈ paths, files.kind path ≠ .ok .directory
        ∧ files.kind path ≠ .error .nullCharacter := by
  induction paths with
  | nil => simp [checkable]
  | cons path rest ih =>
      rw [checkable, List.forall_mem_cons]
      split
      · next hkind => simp [hkind]
      · next hkind => simp [hkind]
      · next hfile hpath =>
          rw [ih]
          exact (and_iff_right ⟨hfile, hpath⟩).symm

theorem invocationOf_eq_check_iff {files : FileSystem} {command : Subcommand}
    {choices choices' : Choices} {arguments paths : List Text} :
    invocationOf files command choices arguments = .ok (.check choices' paths)
      ↔ command = .check ∧ choices = choices' ∧ arguments = paths
        ∧ arguments ≠ [] ∧ checkable files arguments = .ok () := by
  cases command with
  | repl =>
      rw [invocationOf]
      split <;> simp
  | check =>
      rw [invocationOf]
      split
      · next hempty => simp [List.isEmpty_iff.mp hempty]
      · next hsome =>
          have hne : arguments ≠ [] := fun h => hsome (List.isEmpty_iff.mpr h)
          cases checkable files arguments with
          | ok _ => simp [Except.map, hne]
          | error fault => simp [Except.map]

/-- If files can be checked in one order, they can in every other. -/
theorem invocationOf_perm {files : FileSystem} {choices : Choices}
    {paths paths' : List Text}
    (h : invocationOf files .check choices paths = .ok (.check choices paths))
    (hperm : paths'.Perm paths) :
    invocationOf files .check choices paths' = .ok (.check choices paths') := by
  obtain ⟨-, -, -, hne, hcheckable⟩ := invocationOf_eq_check_iff.mp h
  rw [checkable_eq_ok_iff] at hcheckable
  refine invocationOf_eq_check_iff.mpr ⟨rfl, rfl, rfl, ?_, ?_⟩
  · intro hnil
    rw [hnil] at hperm
    exact hne hperm.symm.eq_nil
  · rw [checkable_eq_ok_iff]
    intro path hpath
    exact hcheckable path (hperm.mem_iff.mp hpath)

/-- The files of a call are taken as they stand, whatever options there are. -/
theorem invocationOf_of_parse {files : FileSystem} {arguments paths : List Text}
    {choices : Choices}
    (h : Invocation.parse files arguments = .ok (.check choices paths)) :
    invocationOf files .check choices paths = .ok (.check choices paths) := by
  rw [Invocation.parse] at h
  split at h
  · cases h
  · split at h
    · cases h
    · split at h
      · cases h
      · split at h
        · cases h
        · next command _ =>
            -- A command was named, and so its own arguments are looked at.
            rw [Subcommand.parse] at h
            split at h
            · cases h
            · split at h
              · cases h
              · split at h
                · cases h
                · obtain ⟨rfl, rfl, rfl, -⟩ := invocationOf_eq_check_iff.mp h
                  exact h

end DiagnosticConsole.Command
