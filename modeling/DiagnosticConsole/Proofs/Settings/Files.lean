import DiagnosticConsole.Proofs.Json.Reader
import DiagnosticConsole.Settings.Load

/-!
# Files of settings

A file of settings has a content that loading goes on with, or it stops loading
(`FileContent.exists_isAt_or_stops`). There is no third way, and what the file system
answers tells which: all contents but an object are a layer without members, and all
that are neither an object nor nothing have a notice.
-/

namespace DiagnosticConsole.Settings

variable {files : FileSystem} {path : Text}

/-- What a file of settings holds, where loading goes on. -/
inductive FileContent where
  | absent
  | unreadable (e : OsError)
  | malformed (fault : Json.Fault)
  | notObject (value : Json)
  | object (members : Table Json)

namespace FileContent

/-- The layer of a file; all but an object are a layer without members. -/
def members : FileContent → Table Json
  | object members => members
  | _ => []

/-- What is said about the file at a path. -/
def notices (path : Text) : FileContent → List Notice
  | absent | object _ => []
  | unreadable e => [Settings.unreadable path (e.message path)]
  | malformed fault => [Settings.unreadable path fault.message]
  | notObject _ => [notAnObject path]

/-- What is said about a file that need not be there. -/
def noticesAt? : Option Text → FileContent → List Notice
  | none, _ => []
  | some path, content => content.notices path

/-- What a file system has at a path. -/
inductive IsAt (files : FileSystem) (path : Text) : FileContent → Prop
  | absent {fault : PathFault} (hkind : files.kind path = .error fault)
      (habsence : fault.isAbsence = true) : IsAt files path .absent
  | unreadable {kind : FileKind} {e : OsError} (hkind : files.kind path = .ok kind)
      (hread : files.read path = .error (.system e)) :
      IsAt files path (.unreadable e)
  | malformed {kind : FileKind} {text : Text} {fault : Json.Fault}
      (hkind : files.kind path = .ok kind) (htext : files.readText path = .ok text)
      (hparse : Json.parse text = .error (.malformed fault)) :
      IsAt files path (.malformed fault)
  | notObject {kind : FileKind} {text : Text} {value : Json}
      (hkind : files.kind path = .ok kind) (htext : files.readText path = .ok text)
      (hparse : Json.parse text = .ok value)
      (hvalue : ∀ members, value ≠ .object members) :
      IsAt files path (.notObject value)
  | object {kind : FileKind} {text : Text} {members : Table Json}
      (hkind : files.kind path = .ok kind) (htext : files.readText path = .ok text)
      (hparse : Json.parse text = .ok (.object members)) :
      IsAt files path (.object members)

/-- What there is at a path that need not be there. -/
def IsFound (files : FileSystem) : Option Text → FileContent → Prop
  | none, content => content = .absent
  | some path, content => content.IsAt files path

theorem IsAt.nodup {content : FileContent} (h : content.IsAt files path) :
    (Table.keys content.members).Nodup := by
  cases h with
  | object _ _ hparse => exact Json.parse_keysOnce hparse _ rfl
  | absent | unreadable | malformed | notObject => exact List.nodup_nil

theorem IsFound.nodup {path? : Option Text} {content : FileContent}
    (h : content.IsFound files path?) : (Table.keys content.members).Nodup := by
  cases path? with
  | none => cases h; exact List.nodup_nil
  | some path => exact IsAt.nodup h

theorem IsAt.layer_eq {content : FileContent} (h : content.IsAt files path) :
    layer files path = (.ok content.members, content.notices path) := by
  cases h with
  | absent hkind habsence =>
      rw [layer, hkind]
      exact if_pos habsence
  | unreadable hkind hread =>
      simp [layer, hkind, FileSystem.readText, hread, members, notices]
  | malformed hkind htext hparse =>
      simp [layer, hkind, htext, layerOfText, hparse, members, notices]
  | @notObject _ text value hkind htext hparse hvalue =>
      have hlayer : layerOfText path text = (.ok [], [notAnObject path]) := by
        rw [layerOfText, hparse]
        cases value <;> first | rfl | exact absurd rfl (hvalue _)
      simp [layer, hkind, htext, hlayer, members, notices]
  | object hkind htext hparse =>
      simp [layer, hkind, htext, layerOfText, hparse, members, notices]

theorem IsFound.layer?_eq {path? : Option Text} {content : FileContent}
    (h : content.IsFound files path?) :
    layer? files path? = (.ok content.members, content.noticesAt? path?) := by
  cases path? with
  | none => cases h; rfl
  | some path => exact IsAt.layer_eq h

end FileContent

/-- How a file stops loading. -/
inductive Stops (files : FileSystem) (path : Text) : LoadFault → Prop
  /-- There is no telling whether it is there. -/
  | untold {fault : PathFault} (hkind : files.kind path = .error fault)
      (hpresence : fault.isAbsence = false) : Stops files path (.path fault path)
  /-- It is there under a name that no file is read under. -/
  | unnamed {kind : FileKind} (hkind : files.kind path = .ok kind)
      (hread : files.read path = .error .nullCharacter) :
      Stops files path (.path .nullCharacter path)
  /-- It is no text. -/
  | undecodable {kind : FileKind} {fault : Text.Utf8.Fault}
      (hkind : files.kind path = .ok kind)
      (htext : files.readText path = .error (.undecodable fault)) :
      Stops files path (.undecodable fault)
  | integerTooLong {kind : FileKind} {text : Text} {digits : Nat}
      (hkind : files.kind path = .ok kind) (htext : files.readText path = .ok text)
      (hparse : Json.parse text = .error (.integerTooLong digits)) :
      Stops files path (.integerTooLong digits)
  | tooDeep {kind : FileKind} {text : Text} {nesting : Json.Nesting}
      (hkind : files.kind path = .ok kind) (htext : files.readText path = .ok text)
      (hparse : Json.parse text = .error (.tooDeep nesting)) :
      Stops files path (.tooDeep nesting)

theorem Stops.layer_eq {fault : LoadFault} (h : Stops files path fault) :
    layer files path = (.error fault, []) := by
  cases h with
  | untold hkind hpresence => simp [layer, hkind, hpresence]
  | unnamed hkind hread => simp [layer, hkind, FileSystem.readText, hread]
  | undecodable hkind htext => simp [layer, hkind, htext]
  | integerTooLong hkind htext hparse | tooDeep hkind htext hparse =>
      simp [layer, hkind, htext, layerOfText, hparse]

theorem readText_eq_error_iff {fault : PathFault} :
    files.readText path = .error (.path fault) ↔ files.read path = .error fault := by
  rw [FileSystem.readText]
  cases files.read path with
  | error fault' => simp
  | ok bytes => cases hdecode : Text.Utf8.decode bytes <;> simp [hdecode]

namespace FileContent

/-- Loading goes on with what a file holds, or the file stops it. -/
theorem exists_isAt_or_stops (files : FileSystem) (path : Text) :
    (∃ content : FileContent, content.IsAt files path)
      ∨ ∃ fault, Stops files path fault := by
  cases hkind : files.kind path with
  | error fault =>
      cases habsence : fault.isAbsence with
      | true => exact .inl ⟨_, .absent hkind habsence⟩
      | false => exact .inr ⟨_, .untold hkind habsence⟩
  | ok kind =>
      cases htext : files.readText path with
      | error fault =>
          match fault with
          | .undecodable fault => exact .inr ⟨_, .undecodable hkind htext⟩
          | .path .nullCharacter =>
              exact .inr ⟨_, .unnamed hkind (readText_eq_error_iff.mp htext)⟩
          | .path (.system e) =>
              exact .inl ⟨_, .unreadable hkind (readText_eq_error_iff.mp htext)⟩
      | ok text =>
          cases hparse : Json.parse text with
          | error fault =>
              match fault with
              | .malformed fault => exact .inl ⟨_, .malformed hkind htext hparse⟩
              | .integerTooLong digits =>
                  exact .inr ⟨_, .integerTooLong hkind htext hparse⟩
              | .tooDeep nesting => exact .inr ⟨_, .tooDeep hkind htext hparse⟩
          -- being no object is one content, whatever value it is
          | ok value =>
              by_cases hobject : ∃ members, value = .object members
              · obtain ⟨members, rfl⟩ := hobject
                exact .inl ⟨_, .object hkind htext hparse⟩
              · exact .inl ⟨_, .notObject hkind htext hparse
                  fun members h => hobject ⟨members, h⟩⟩

theorem exists_isAt {members : Table Json} {notices : List Notice}
    (h : layer files path = (.ok members, notices)) :
    ∃ content : FileContent, content.IsAt files path := by
  rcases exists_isAt_or_stops files path with hat | ⟨fault, hstops⟩
  · exact hat
  · rw [hstops.layer_eq] at h
    cases h

end FileContent

end DiagnosticConsole.Settings
