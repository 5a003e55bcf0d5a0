import DiagnosticConsole.Proofs.Json.Limits
import DiagnosticConsole.Proofs.Settings.Files
import DiagnosticConsole.Proofs.Text.Newline

/-!
# Bad files of settings

A file of settings that cannot be read, that is no JSON, or that holds something else
than an object, does not keep the settings from being loaded: there is a warning, and
the settings are those without the file. But there are files that do. Loading ends at
the first of them and gives no settings at all (`load_eq_error_iff`).

What stops loading is a file that is no text, or whose text goes past a limit of the
reader. So a text that is no longer than values may be open at once is never one
(`not_stops_of_length_le`).
-/

namespace DiagnosticConsole

/-- A warning is written whether debugging or not. -/
theorem Notice.isInfix_render_warning (time : TimeOfDay) (debugging : Bool)
    (message : Text) (details : Option Text) :
    message <:+: render time debugging (.warning message details) := by
  have hline : message <:+:
      styled "33" (time.stamp ++ Text.ofString " [caret] ⚠ " ++ message) := by
    rw [styled, ← List.append_assoc, List.append_assoc]
    exact List.infix_append _ _ _
  exact hline.trans (List.prefix_append _ _).isInfix

namespace Settings

variable {files : FileSystem} {sources : Sources} {path : Text}

/-- The files that are looked at. -/
def Sources.paths (sources : Sources) : List Text :=
  sources.globalPath :: sources.projectPath.toList

/-- The settings that two files and the overrides make, and what is said of their
fields. -/
def layered (sources : Sources) (globalContent projectContent : FileContent) :
    Settings × List Notice :=
  let read :=
    ofMembers
      (merge (merge globalContent.members projectContent.members) sources.overrides)
  (withoutColor sources.noColor read.1, read.2)

namespace FileContent

/-- There is a file, but no object in it. -/
def IsBad : FileContent → Prop
  | absent | object _ => False
  | unreadable _ | malformed _ | notObject _ => True

variable {content : FileContent}

theorem IsBad.members_eq_nil (h : content.IsBad) : content.members = [] := by
  cases content with
  | object members => cases h
  | _ => rfl

theorem IsBad.layered_left (h : content.IsBad) (projectContent : FileContent) :
    layered sources content projectContent
      = layered sources .absent projectContent := by
  rw [layered, h.members_eq_nil]
  rfl

theorem IsBad.layered_right (h : content.IsBad) (globalContent : FileContent) :
    layered sources globalContent content
      = layered sources globalContent .absent := by
  rw [layered, h.members_eq_nil]
  rfl

/-- There is one warning about a bad file, which names it. -/
theorem IsBad.notices_eq (h : content.IsBad) (path : Text) :
    ∃ message details, content.notices path = [.warning message details]
      ∧ path <:+: message := by
  cases content with
  | absent | object => cases h
  | unreadable | malformed =>
      exact ⟨_, _, rfl, (List.suffix_append _ path).isInfix⟩
  | notObject => exact ⟨_, _, rfl, List.infix_append _ path _⟩

theorem exists_isFound_or_stops (files : FileSystem) (path? : Option Text) :
    (∃ content : FileContent, content.IsFound files path?)
      ∨ ∃ path fault, path? = some path ∧ Stops files path fault := by
  cases path? with
  | none => exact .inl ⟨.absent, rfl⟩
  | some path =>
      rcases exists_isAt_or_stops files path with hat | ⟨fault, hstops⟩
      · exact .inl hat
      · exact .inr ⟨path, fault, rfl, hstops⟩

end FileContent

/-- A file of a text that is no longer than values may be open at once does not stop
loading. -/
theorem not_stops_of_length_le {kind : FileKind} {bytes : Text.Bytes} {text : Text}
    (hkind : files.kind path = .ok kind) (hread : files.read path = .ok bytes)
    (hdecode : Text.Utf8.decode bytes = .ok text)
    (hlength : text.length ≤ Json.maxDepth) (fault : LoadFault) :
    ¬ Stops files path fault := by
  have htext : files.readText path = .ok (Text.normaliseNewlines text) := by
    rw [FileSystem.readText, hread]
    simp only [hdecode]
  have hnewlines := Text.length_normaliseNewlines_le text
  intro h
  cases h with
  | untold hkind' => cases hkind.symm.trans hkind'
  | unnamed _ hread' => cases hread.symm.trans hread'
  | undecodable _ htext' => cases htext.symm.trans htext'
  | integerTooLong _ htext' hparse =>
      obtain rfl := Except.ok.inj (htext.symm.trans htext')
      have hdigits := Json.parse_faultWithin hparse
      have hlimits : Json.maxDepth ≤ Text.Integer.maxDigits := by decide
      simp only [Json.ReadFault.Within] at hdigits
      omega
  | tooDeep _ htext' hparse =>
      obtain rfl := Except.ok.inj (htext.symm.trans htext')
      have hdepth := Json.parse_faultWithin hparse
      simp only [Json.ReadFault.Within] at hdepth
      omega

/-! ## Loading -/

theorem load_eq_layered {globalContent projectContent : FileContent}
    (hglobal : globalContent.IsAt files sources.globalPath)
    (hproject : projectContent.IsFound files sources.projectPath) :
    load files sources
      = (.ok (layered sources globalContent projectContent).1,
          globalContent.notices sources.globalPath
            ++ projectContent.noticesAt? sources.projectPath
            ++ (layered sources globalContent projectContent).2) := by
  rw [load, hglobal.layer_eq]
  dsimp only
  rw [hproject.layer?_eq]
  rfl

theorem load_of_global_stops {fault : LoadFault}
    (h : Stops files sources.globalPath fault) :
    load files sources = (.error fault, []) := by
  rw [load, h.layer_eq]

theorem load_of_project_stops {globalContent : FileContent} {fault : LoadFault}
    (hglobal : globalContent.IsAt files sources.globalPath)
    (hpath : sources.projectPath = some path) (h : Stops files path fault) :
    load files sources
      = (.error fault, globalContent.notices sources.globalPath) := by
  rw [load, hglobal.layer_eq]
  simp only [hpath, layer?, h.layer_eq, List.append_nil]

/-- Loading ends at the first file that stops it. -/
theorem load_eq_error_iff {fault : LoadFault} :
    (load files sources).1 = .error fault
      ↔ Stops files sources.globalPath fault
        ∨ (∃ content : FileContent, content.IsAt files sources.globalPath)
          ∧ ∃ path, sources.projectPath = some path ∧ Stops files path fault := by
  constructor
  · intro h
    rcases FileContent.exists_isAt_or_stops files sources.globalPath with
      ⟨content, hglobal⟩ | ⟨fault', hstops⟩
    · rcases FileContent.exists_isFound_or_stops files sources.projectPath with
        ⟨content', hproject⟩ | ⟨path, fault', hpath, hstops⟩
      · rw [load_eq_layered hglobal hproject] at h
        cases h
      · rw [load_of_project_stops hglobal hpath hstops] at h
        cases h
        exact .inr ⟨⟨content, hglobal⟩, path, hpath, hstops⟩
    · rw [load_of_global_stops hstops] at h
      cases h
      exact .inl hstops
  · rintro (hstops | ⟨⟨content, hglobal⟩, path, hpath, hstops⟩)
    · rw [load_of_global_stops hstops]
    · rw [load_of_project_stops hglobal hpath hstops]

/-- Loading gives settings unless one of the files stops it. -/
theorem exists_load_eq_ok_iff :
    (∃ s, (load files sources).1 = .ok s)
      ↔ ∀ path ∈ sources.paths, ∀ fault, ¬ Stops files path fault := by
  constructor
  · rintro ⟨s, h⟩ path hpath fault hstops
    rcases List.mem_cons.mp hpath with rfl | hproject
    · rw [load_eq_error_iff.mpr (.inl hstops)] at h
      cases h
    · rw [Option.mem_toList] at hproject
      rcases FileContent.exists_isAt_or_stops files sources.globalPath with
        hglobal | ⟨fault', hstops'⟩
      · rw [load_eq_error_iff.mpr (.inr ⟨hglobal, path, hproject, hstops⟩)] at h
        cases h
      · rw [load_eq_error_iff.mpr (.inl hstops')] at h
        cases h
  · intro h
    cases hload : (load files sources).1 with
    | ok s => exact ⟨s, rfl⟩
    | error fault =>
        rcases load_eq_error_iff.mp hload with hstops | ⟨-, path, hpath, hstops⟩
        · exact absurd hstops (h _ List.mem_cons_self fault)
        · refine absurd hstops (h path (List.mem_cons_of_mem _ ?_) fault)
          exact Option.mem_toList.mpr hpath

/-- The settings that are loaded are made by the files and the overrides, and what is
said is said of the files first. A bad file counts as if it were not there, but for one
warning that names it. What stops loading is the first file that does, and if none of
them does there are settings. No file of a short text stops it. -/
theorem load_returns_unless_stopped (files : FileSystem) (sources : Sources) :
    (∀ globalContent projectContent : FileContent,
      globalContent.IsAt files sources.globalPath →
      projectContent.IsFound files sources.projectPath →
      load files sources
        = (.ok (layered sources globalContent projectContent).1,
            globalContent.notices sources.globalPath
              ++ projectContent.noticesAt? sources.projectPath
              ++ (layered sources globalContent projectContent).2))
    ∧ (∀ content : FileContent, content.IsBad →
      (∀ other, layered sources content other = layered sources .absent other)
        ∧ (∀ other, layered sources other content = layered sources other .absent)
        ∧ ∀ path, ∃ message details,
          content.notices path = [.warning message details] ∧ path <:+: message
            ∧ ∀ time debugging,
              message <:+: Notice.render time debugging (.warning message details))
    ∧ (∀ fault, (load files sources).1 = .error fault
      ↔ Stops files sources.globalPath fault
        ∨ (∃ content : FileContent, content.IsAt files sources.globalPath)
          ∧ ∃ path, sources.projectPath = some path ∧ Stops files path fault)
    ∧ ((∃ s, (load files sources).1 = .ok s)
      ↔ ∀ path ∈ sources.paths, ∀ fault, ¬ Stops files path fault)
    ∧ ∀ path kind bytes text, files.kind path = .ok kind →
      files.read path = .ok bytes → Text.Utf8.decode bytes = .ok text →
      text.length ≤ Json.maxDepth → ∀ fault, ¬ Stops files path fault := by
  refine ⟨fun _ _ hglobal hproject => load_eq_layered hglobal hproject,
    fun content hbad => ⟨hbad.layered_left, hbad.layered_right, fun path => ?_⟩,
    fun fault => load_eq_error_iff, exists_load_eq_ok_iff,
    fun path kind bytes text hkind hread hdecode hlength =>
      not_stops_of_length_le hkind hread hdecode hlength⟩
  obtain ⟨message, details, hnotices, hinfix⟩ := hbad.notices_eq path
  exact ⟨message, details, hnotices, hinfix, fun time debugging =>
    Notice.isInfix_render_warning time debugging message details⟩

/-- One byte that begins no character is enough. -/
theorem load_stopped_by_byte :
    let files : FileSystem :=
      { kind := fun _ => .ok .file, read := fun _ => .ok [0xFF] }
    let sources : Sources := { globalDirectory := Text.ofString "/c" }
    load files sources
      = (.error (.undecodable
          { reason := .invalidStart, position := 0, length := 1, byte := 0xFF }), []) :=
  rfl

end Settings

end DiagnosticConsole
