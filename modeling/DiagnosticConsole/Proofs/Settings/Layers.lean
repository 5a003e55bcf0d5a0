import DiagnosticConsole.Proofs.Settings.Fields
import DiagnosticConsole.Proofs.Settings.Files
import DiagnosticConsole.Proofs.Settings.Merge

/-!
# Layers of settings

The layers are merged first and read afterwards, so a field could in principle
depend on anything in any of them. It does not: merging goes key by key, up to
objects, which are merged in turn. No field takes an object, so an object is
ignored whether it was merged or not, and what settles a field is the highest
value that is given at its key.
-/

namespace DiagnosticConsole.Settings

variable {files : FileSystem} {path : Text} {field : Field}

/-- The layers of sources, from the highest down, where loading goes on. -/
inductive Layered (files : FileSystem) (sources : Sources) :
    List (Table Json) → Prop
  | mk {globalContent projectContent : FileContent}
      (hglobal : globalContent.IsAt files sources.globalPath)
      (hproject : projectContent.IsFound files sources.projectPath)
      (honce : (Table.keys sources.overrides).Nodup) :
      Layered files sources
        [sources.overrides, projectContent.members, globalContent.members]

/-! ## What is said about files -/

theorem unreadable_ne_wrongKind (path reason : Text) (field : Field) :
    unreadable path reason ≠ wrongKind field := by
  simp [unreadable, wrongKind]

/-- The two notices part at the letter after `Ignoring setting`. -/
theorem notAnObject_ne_wrongKind (path : Text) (field : Field) :
    notAnObject path ≠ wrongKind field := by
  intro h
  rw [notAnObject, wrongKind, Notice.warning.injEq] at h
  have h16 := congrArg (·[16]?) h.1
  rw [List.append_assoc, List.append_assoc] at h16
  simp [Text.ofString] at h16

theorem FileContent.count_wrongKind_notices (content : FileContent) (path : Text)
    (field : Field) : (content.notices path).count (wrongKind field) = 0 := by
  have hcount {notice : Notice} (hne : notice ≠ wrongKind field) :
      [notice].count (wrongKind field) = 0 :=
    List.count_eq_zero.mpr fun hmem => hne (List.mem_singleton.mp hmem).symm
  cases content with
  | absent | object => rfl
  | unreadable | malformed => exact hcount (unreadable_ne_wrongKind _ _ field)
  | notObject => exact hcount (notAnObject_ne_wrongKind path field)

theorem FileContent.count_wrongKind_noticesAt? (content : FileContent)
    (path? : Option Text) (field : Field) :
    (content.noticesAt? path?).count (wrongKind field) = 0 := by
  cases path? with
  | none => rfl
  | some path => exact content.count_wrongKind_notices path field

/-! ## Layers one over the other -/

/-- The highest value given at a key. -/
def topmost? (layers : List (Table Json)) (key : Text) : Option Json :=
  layers.findSome? fun layer => given? layer key

/-- Values of which neither settles a field differently from the other: the same,
or two objects. -/
def Alike (value value' : Option Json) : Prop :=
  value = value' ∨
    ∃ rows rows', value = some (.object rows) ∧ value' = some (.object rows')

theorem Alike.or {upper lower lower' : Option Json} (h : Alike lower lower') :
    Alike (upper.or lower) (upper.or lower') := by
  cases upper with
  | none => exact h
  | some value => exact .inl rfl

theorem Alike.trans {a b c : Option Json} (h : Alike a b) (h' : Alike b c) :
    Alike a c := by
  rcases h with rfl | ⟨rows, _, rfl, rfl⟩
  · exact h'
  · rcases h' with rfl | ⟨_, rows', _, rfl⟩
    · exact .inr ⟨rows, _, rfl, rfl⟩
    · exact .inr ⟨rows, rows', rfl, rfl⟩

theorem object_ne_toJson (rows : List (Text × Json)) (kind : Kind)
    (x : kind.Value) : Json.object rows ≠ kind.toJson x := by
  cases kind <;> exact Json.noConfusion

theorem Alike.settles {value value' : Option Json} {x : field.kind.Value}
    {ignored : Bool} (h : Alike value value')
    (hsettles : Settles field value x ignored) : Settles field value' x ignored := by
  rcases h with rfl | ⟨rows, rows', rfl, rfl⟩
  · exact hsettles
  · obtain ⟨rfl, rfl⟩ :=
      hsettles.unique (.ignored (object_ne_toJson rows field.kind))
    exact .ignored (object_ne_toJson rows' field.kind)

theorem given?_merge {base overrides : Table Json}
    (honce : (Table.keys overrides).Nodup) (key : Text) :
    Alike (given? (merge base overrides) key)
      ((given? overrides key).or (given? base key)) := by
  rw [given?, get?_merge honce, given?, given?]
  generalize Table.get? overrides key = upper
  generalize Table.get? base key = lower
  cases upper with
  | none => exact .inl rfl
  | some value =>
      cases value with
      | null => exact .inl rfl
      | object rows =>
          cases lower with
          | none => exact .inl rfl
          | some value =>
              cases value with
              | object rows' => exact .inr ⟨merge rows' rows, rows, rfl, rfl⟩
              | null | bool | integer | numeral | string | array => exact .inl rfl
      | bool | integer | numeral | string | array => exact .inl rfl

theorem given?_merge_merge {lowest middle highest : Table Json}
    (hmiddle : (Table.keys middle).Nodup) (hhighest : (Table.keys highest).Nodup)
    (key : Text) :
    Alike (given? (merge (merge lowest middle) highest) key)
      (topmost? [highest, middle, lowest] key) := by
  have htopmost : topmost? [highest, middle, lowest] key =
      (given? highest key).or ((given? middle key).or (given? lowest key)) := by
    simp only [topmost?, List.findSome?_cons, List.findSome?_nil]
    cases given? highest key <;> cases given? middle key <;>
      cases given? lowest key <;> rfl
  rw [htopmost]
  exact (given?_merge hhighest key).trans (given?_merge hmiddle key).or

/-! ## Loading -/

/-- The value of a field where colours may be off whatever the layers say. -/
def Field.masked (noColor : Bool) : (field : Field) → field.kind.Value → field.kind.Value
  | .color, on => !noColor && on
  | .pageWidth, n => n
  | .prompt, t => t
  | .continuationPrompt, t => t
  | .language, t => t
  | .explain, b => b
  | .debug, b => b

theorem get_withoutColor (noColor : Bool) (s : Settings) (field : Field) :
    (withoutColor noColor s).get field = field.masked noColor (s.get field) := by
  cases noColor <;> cases field <;> rfl

/-- Loading settles each field by the highest value given at its key, and speaks
of no field but those where what is given is ignored. -/
theorem load_settles {sources : Sources} {layers : List (Table Json)}
    (h : Layered files sources layers) :
    ∃ s notices, load files sources = (.ok s, notices) ∧
      ∀ field, ∃ x ignored, Settles field (topmost? layers field.key) x ignored ∧
        s.get field = field.masked sources.noColor x ∧
        notices.count (wrongKind field) = if ignored then 1 else 0 := by
  obtain @⟨globalContent, projectContent, hglobal, hproject, honce⟩ := h
  refine ⟨_, _, by rw [load, hglobal.layer_eq]; dsimp only; rw [hproject.layer?_eq],
    fun field => ?_⟩
  obtain ⟨ignored, hsettles, hcount⟩ :=
    ofMembers_settles
      (merge (merge globalContent.members projectContent.members)
        sources.overrides) field
  refine ⟨_, ignored,
    (given?_merge_merge hproject.nodup honce field.key).settles hsettles,
    get_withoutColor _ _ _, ?_⟩
  rw [List.count_append, List.count_append, globalContent.count_wrongKind_notices,
    projectContent.count_wrongKind_noticesAt?, hcount, Nat.zero_add]

/-- Loading goes on nowhere but where there are layers. -/
theorem layered_of_load {sources : Sources} {s : Settings} {notices : List Notice}
    (h : load files sources = (.ok s, notices))
    (honce : (Table.keys sources.overrides).Nodup) :
    ∃ layers, Layered files sources layers := by
  rw [load] at h
  split at h
  · cases h
  · next hlower =>
      obtain ⟨globalContent, hglobal⟩ := FileContent.exists_isAt hlower
      split at h
      · cases h
      · next hmiddle =>
          cases hproject : sources.projectPath with
          | none =>
              have habsent : FileContent.IsFound files sources.projectPath .absent := by
                rw [hproject]
                rfl
              exact ⟨_, .mk hglobal habsent honce⟩
          | some path =>
              rw [hproject, layer?] at hmiddle
              obtain ⟨projectContent, hat⟩ := FileContent.exists_isAt hmiddle
              have hfound : projectContent.IsFound files sources.projectPath := by
                rw [hproject]
                exact hat
              exact ⟨_, .mk hglobal hfound honce⟩

theorem given?_toMembers (s : Settings) (field : Field) :
    given? s.toMembers field.key = some (field.kind.toJson (s.get field)) := by
  cases field <;> rfl

theorem topmost?_of_above {above below : List (Table Json)} {layer : Table Json}
    {key : Text} {value : Json} (habove : ∀ upper ∈ above, given? upper key = none)
    (hlayer : given? layer key = some value) :
    topmost? (above ++ layer :: below) key = some value := by
  rw [topmost?, List.findSome?_append, List.findSome?_eq_none_iff.mpr habove,
    Option.none_or, List.findSome?_cons, hlayer]

/-- Settings are layered field by field. Whatever the files hold where loading
goes on, each field is settled by the highest value given at its key; where that
is ignored, there is one notice about the field, and else there is none. The
other keys, the other fields and what lies below do not matter, and colours being
off matters to none but the field for them. So settings given as a layer come
back, if no higher layer gives any of the fields. -/
theorem load_resolves_by_field {sources : Sources} {layers : List (Table Json)}
    (h : Layered files sources layers) :
    ∃ s notices, load files sources = (.ok s, notices) ∧
      (∀ field, ∃ x ignored, Settles field (topmost? layers field.key) x ignored ∧
        s.get field = field.masked sources.noColor x ∧
        notices.count (wrongKind field) = if ignored then 1 else 0) ∧
      (∀ files' sources' layers', Layered files' sources' layers' →
        ∀ field, topmost? layers' field.key = topmost? layers field.key →
          (field = .color → sources'.noColor = sources.noColor) →
          ∃ s' notices', load files' sources' = (.ok s', notices') ∧
            s'.get field = s.get field ∧
            notices'.count (wrongKind field) = notices.count (wrongKind field)) ∧
      ∀ wanted above below, layers = above ++ toMembers wanted :: below →
        (∀ upper ∈ above, ∀ field : Field, given? upper field.key = none) →
        s = withoutColor sources.noColor wanted ∧
          ∀ field, wrongKind field ∉ notices := by
  obtain ⟨s, notices, hload, hfields⟩ := load_settles h
  refine ⟨s, notices, hload, hfields, ?_, ?_⟩
  · intro files' sources' layers' h' field htop hnoColor
    obtain ⟨s', notices', hload', hfields'⟩ := load_settles h'
    obtain ⟨x, ignored, hsettles, hget, hcount⟩ := hfields field
    obtain ⟨x', ignored', hsettles', hget', hcount'⟩ := hfields' field
    rw [htop] at hsettles'
    obtain ⟨rfl, rfl⟩ := hsettles'.unique hsettles
    refine ⟨s', notices', hload', ?_, hcount'.trans hcount.symm⟩
    rw [hget', hget]
    cases field with
    | color => rw [hnoColor rfl]
    | _ => rfl
  · intro wanted above below hlayers habove
    have hfield (field : Field) :
        s.get field = (withoutColor sources.noColor wanted).get field ∧
          wrongKind field ∉ notices := by
      obtain ⟨x, ignored, hsettles, hget, hcount⟩ := hfields field
      rw [hlayers, topmost?_of_above (fun upper hmem => habove upper hmem field)
        (given?_toMembers wanted field)] at hsettles
      obtain ⟨rfl, rfl⟩ := hsettles.unique (.given _)
      exact ⟨hget.trans (get_withoutColor _ _ _).symm, List.count_eq_zero.mp hcount⟩
    exact ⟨eq_of_get fun field => (hfield field).1, fun field => (hfield field).2⟩

/-- A flag given for a width hides the width below it; a null hides nothing. -/
theorem load_resolves_by_field_hidden :
    let sources : Sources :=
      { globalDirectory := Text.ofString "/c"
        project := some (Text.ofString "/w")
        overrides :=
          [(Text.ofString "pageWidth", .bool true), (Text.ofString "prompt", .null),
           (Text.ofString "debug", .bool true)]
        noColor := true }
    let files : FileSystem :=
      { kind := fun _ => .ok .file
        read := fun path => .ok <| Text.Utf8.encode <|
          if path = sources.globalPath then Text.ofString "\x7b\"prompt\": \"> \"\x7d"
          else Text.ofString "\x7b\"pageWidth\": 100\x7d" }
    ∃ s notices, load files sources = (.ok s, notices) ∧
      s.pageWidth = 80 ∧ notices.count (wrongKind .pageWidth) = 1 ∧
      s.prompt = Text.ofString "> " ∧ notices.count (wrongKind .prompt) = 0 ∧
      s.debug = true ∧ s.color = false := by
  have hpromptPlain : (Text.ofString "prompt").all Json.isPlain = true := by decide
  have hmarkPlain : (Text.ofString "> ").all Json.isPlain = true := by decide
  have hglobal : Json.parse (Text.ofString "\x7b\"prompt\": \"> \"\x7d") =
      .ok (.object [(Text.ofString "prompt", .string (Text.ofString "> "))]) :=
    Json.parse_of_member hpromptPlain (Json.takes_value_string hmarkPlain _ ['\x7d'])
  have hwidthPlain : (Text.ofString "pageWidth").all Json.isPlain = true := by decide
  have hhundred : Json.Takes (Json.scalar (Text.ofString "100\x7d")) (.integer 100)
      ['\x7d'] :=
    ⟨by decide, rfl⟩
  have hproject : Json.parse (Text.ofString "\x7b\"pageWidth\": 100\x7d") =
      .ok (.object [(Text.ofString "pageWidth", .integer 100)]) :=
    Json.parse_of_member hwidthPlain (Json.takes_value_scalar (by decide) hhundred _)
  intro sources files
  have hlower : files.readText sources.globalPath =
      .ok (Text.ofString "\x7b\"prompt\": \"> \"\x7d") := by
    rw [FileSystem.readText]
    rfl
  have hupper : files.readText (Text.ofString "/w/.caret/settings.json") =
      .ok (Text.ofString "\x7b\"pageWidth\": 100\x7d") := by
    rw [FileSystem.readText]
    rfl
  have hlayers : Layered files sources _ :=
    .mk (.object rfl hlower hglobal) (FileContent.IsAt.object rfl hupper hproject)
      (by decide)
  obtain ⟨s, notices, hload, hfields, -⟩ := load_resolves_by_field hlayers
  obtain ⟨_, _, hflag, hpageWidth, hnotice⟩ := hfields .pageWidth
  obtain ⟨rfl, rfl⟩ := hflag.unique (.ignored fun n h => by cases h)
  obtain ⟨_, _, hgiven, hprompt, hnone⟩ := hfields .prompt
  obtain ⟨rfl, rfl⟩ := hgiven.unique (@Settles.given .prompt (Text.ofString "> "))
  obtain ⟨_, _, hasked, hdebug, -⟩ := hfields .debug
  obtain ⟨rfl, rfl⟩ := hasked.unique (@Settles.given .debug true)
  obtain ⟨_, _, -, hcolor, -⟩ := hfields .color
  exact ⟨s, notices, hload, hpageWidth, hnotice, hprompt, hnone, hdebug, hcolor⟩

end DiagnosticConsole.Settings
