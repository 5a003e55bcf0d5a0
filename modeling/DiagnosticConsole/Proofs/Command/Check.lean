import DiagnosticConsole.Command.Run
import DiagnosticConsole.Proofs.Command.Invocation
import DiagnosticConsole.Proofs.Evaluation.Check
import DiagnosticConsole.Proofs.Terminal.Escape

/-!
# A check of several files

A check goes from file to file with one reporter and one flag, but what becomes
of a file does not depend on either. So what a check has come to after some files
can be told from the files alone: what was asked is what there was to read, what
was written is one diagnostic for each that fails, and so on with the counts
(`Progress.Accounts`). This is so at the beginning, one more file keeps it
(`Progress.Accounts.checkPath`), and so it is at the end.

The exit status and the summary are made of the flag and the count, and for these
the order of the files is of no account.

All this holds as long as the diagnostics can be drawn. The first that cannot be
drawn ends the check, with what was told of the files before it and neither a
summary nor an exit status (`runCheck_of_undrawable`).
-/

namespace DiagnosticConsole

namespace Command

/-! ## What files are found to be -/

variable (env : Environment)

/-- The source at a path, if it can be read. -/
def source? (path : Text) : Option SourceFile :=
  (env.files.readText path).toOption.map fun content => { path, content }

/-- What the host is asked for the file at a path. -/
def request? (path : Text) : Option CompileRequest :=
  (source? env path).map SourceFile.request

/-- The source at a path and its fault, if it can be read and does not compile. -/
def failing? (path : Text) : Option (SourceFile × CompileFault) :=
  (source? env path).bind fun source =>
    match env.host.compile source.request with
    | .ok _ => none
    | .error fault => some (source, fault)

/-- Tests for a path without a file that can be read. -/
def isUnreadable (path : Text) : Bool := (source? env path).isNone

/-- Tests for a path with a file that does not compile. -/
def fails (path : Text) : Bool := (failing? env path).isSome

/-- What is told of the file at a path, which is nothing unless it fails. -/
def diagnostic (renderer : Renderer) (explain : Bool) (path : Text) : Text :=
  match failing? env path with
  | some (source, fault) => fault.told renderer explain source
  | none => []

/-- The summary of so many errors; nothing if there are none. -/
def errorsFound (n : Nat) : Text :=
  if n = 0 then []
  else
    Text.ofNat n ++ Text.ofString " error" ++ (if n = 1 then [] else ['s'])
      ++ Text.ofString " found\n"

/-- The exit status of a check: two if a file cannot be read, else one if a file
fails. -/
def statusOf (paths : List Text) : Nat :=
  if paths.any (isUnreadable env) then 2
  else if paths.any (fails env) then 1
  else 0

/-- The outcome of a check is what the files make it. -/
structure Outcome.Accounts (renderer : Renderer) (explain : Bool)
    (paths : List Text) (o : Outcome) : Prop where
  requests : o.requests = paths.filterMap (request? env)
  output : o.standardOutput
    = (paths.map (diagnostic env renderer explain)).flatten
      ++ errorsFound (paths.countP (fails env))
  ending : o.ending = .exit (statusOf env paths)

/-! ## From file to file -/

/-- The progress of a check is what the files so far make it. -/
structure Progress.Accounts (renderer : Renderer) (explain : Bool)
    (paths : List Text) (p : Progress) : Prop where
  renderer_eq : p.reporter.renderer = renderer
  explain_eq : p.reporter.explain = explain
  written : p.reporter.written
    = (paths.map (diagnostic env renderer explain)).flatten
  errors : p.reporter.errors = paths.countP (fails env)
  warnings : p.reporter.warnings = 0
  unreadable : p.unreadable = paths.any (isUnreadable env)
  requests : p.requests = paths.filterMap (request? env)

/-- Whatever fault the file at a path has, a check can tell of it. -/
def CanTell (renderer : Renderer) (path : Text) : Prop :=
  ∀ source fault, failing? env path = some (source, fault) →
    fault.Tellable ∧ fault.Drawable renderer source

theorem accounts_start (renderer : Renderer) (explain : Bool) :
    Progress.Accounts env renderer explain []
      { reporter := { renderer, explain } } :=
  ⟨rfl, rfl, rfl, rfl, rfl, rfl, rfl⟩

variable {env} {renderer : Renderer} {explain : Bool} {paths : List Text}
  {p : Progress} {path : Text}

theorem failing?_eq_some_iff {source : SourceFile} {fault : CompileFault} :
    failing? env path = some (source, fault)
      ↔ source? env path = some source
        ∧ env.host.compile source.request = .error fault := by
  rw [failing?, Option.bind_eq_some_iff]
  constructor
  · rintro ⟨source', hsource, hcompile⟩
    split at hcompile
    · cases hcompile
    · next hfault =>
        cases hcompile
        exact ⟨hsource, hfault⟩
  · rintro ⟨hsource, hcompile⟩
    exact ⟨source, hsource, by rw [hcompile]⟩

theorem checkPath_of_unreadable (h : source? env path = none) :
    ∃ complaints,
      checkPath env p path = ({ p with unreadable := true, complaints }, .ok ()) := by
  rw [checkPath]
  cases hread : env.files.readText path with
  | error fault => exact ⟨_, rfl⟩
  | ok text =>
      rw [source?, hread] at h
      cases h

theorem checkPath_of_source {source : SourceFile}
    (h : source? env path = some source) :
    checkPath env p path
      = let checked :=
          Evaluation.checkFile env.host p.reporter source.path source.content
        ({ p with
            reporter := checked.reporter
            requests := p.requests ++ [checked.request] },
          checked.outcome.map fun _ => ()) := by
  rw [checkPath]
  cases hread : env.files.readText path with
  | error fault =>
      rw [source?, hread] at h
      cases h
  | ok text =>
      rw [source?, hread] at h
      cases h
      rfl

/-- What one file adds to a check: what is told of it, whether it counts, and what
was asked for it. -/
theorem checkPath_eq (htell : CanTell env p.reporter.renderer path) :
    ∃ complaints, checkPath env p path
      = ({ reporter :=
            { p.reporter with
              errors := p.reporter.errors + if fails env path then 1 else 0
              written := p.reporter.written
                ++ diagnostic env p.reporter.renderer p.reporter.explain path }
           unreadable := p.unreadable || isUnreadable env path
           complaints
           requests := p.requests ++ (request? env path).toList },
          .ok ()) := by
  cases hsource : source? env path with
  | none =>
      obtain ⟨complaints, hcheck⟩ := checkPath_of_unreadable hsource
      have hfailing : failing? env path = none := by
        rw [failing?, hsource]
        rfl
      -- There is nothing to ask for, and nothing to hold against the file.
      refine ⟨complaints, ?_⟩
      rw [hcheck]
      simp [fails, diagnostic, isUnreadable, request?, hsource, hfailing]
  | some source =>
      refine ⟨p.complaints, ?_⟩
      rw [checkPath_of_source hsource]
      cases hcompile : env.host.compile source.request with
      | ok code =>
          have hfailing : failing? env path = none := by
            rw [failing?, hsource, Option.bind_some, hcompile]
          rw [Evaluation.checkFile_of_code p.reporter hcompile]
          simp [fails, diagnostic, isUnreadable, request?, hsource, hfailing,
            Except.map]
      | error fault =>
          have hfailing := failing?_eq_some_iff.mpr ⟨hsource, hcompile⟩
          obtain ⟨htellable, hdrawable⟩ := htell source fault hfailing
          rw [Evaluation.checkFile_of_fault p.reporter hcompile htellable
            hdrawable]
          simp [fails, diagnostic, isUnreadable, request?, hsource, hfailing,
            Except.map]

/-- A file whose diagnostic cannot be drawn was asked for, and that is all. -/
theorem checkPath_of_undrawable {source : SourceFile} {fault : CompileFault}
    {extent : ExtentFault} (hfailing : failing? env path = some (source, fault))
    (htell : fault.Tellable)
    (hdraw : p.reporter.renderer.render? fault.message (fault.position? source)
      none none = .error extent) :
    checkPath env p path
      = ({ p with requests := p.requests ++ (request? env path).toList },
          .error (.oversized extent)) := by
  obtain ⟨hsource, hcompile⟩ := failing?_eq_some_iff.mp hfailing
  rw [checkPath_of_source hsource,
    Evaluation.checkFile_of_undrawable p.reporter hcompile htell hdraw, request?,
    hsource]
  rfl

theorem filterMap_concat {α β : Type} (f : α → Option β) (l : List α) (x : α) :
    (l ++ [x]).filterMap f = l.filterMap f ++ (f x).toList := by
  rw [List.filterMap_append]
  cases hx : f x with
  | none => simp [hx]
  | some y => simp [hx]

/-- A check of one more file comes to an end, and the account goes on. -/
theorem Progress.Accounts.checkPath (h : p.Accounts env renderer explain paths)
    (htell : CanTell env renderer path) :
    ∃ q, Command.checkPath env p path = (q, .ok ())
      ∧ q.Accounts env renderer explain (paths ++ [path]) := by
  rw [← h.renderer_eq] at htell
  obtain ⟨complaints, hcheck⟩ := checkPath_eq htell
  refine ⟨_, hcheck, h.renderer_eq, h.explain_eq, ?_, ?_, h.warnings, ?_, ?_⟩
  · simp [h.written, h.renderer_eq, h.explain_eq]
  · simp [h.errors, List.countP_singleton]
  · simp [h.unreadable]
  · rw [filterMap_concat, h.requests]

/-- A check of more files comes to an end, and the account goes on. -/
theorem Progress.Accounts.checkPaths {rest : List Text}
    (h : p.Accounts env renderer explain paths)
    (htell : ∀ path ∈ rest, CanTell env renderer path) :
    ∃ q, Command.checkPaths env p rest = (q, .ok ())
      ∧ q.Accounts env renderer explain (paths ++ rest) := by
  induction rest generalizing paths p with
  | nil => exact ⟨p, rfl, by rwa [List.append_nil]⟩
  | cons path rest ih =>
      obtain ⟨q, hstep, hq⟩ := h.checkPath (htell path List.mem_cons_self)
      obtain ⟨q', hrest, hq'⟩ :=
        ih hq fun path hpath => htell path (List.mem_cons_of_mem _ hpath)
      refine ⟨q', ?_, ?_⟩
      · rw [Command.checkPaths, hstep]
        exact hrest
      · rwa [List.append_assoc] at hq'

theorem checkPaths_append {q : Progress} (rest : List Text)
    (h : checkPaths env p paths = (q, .ok ())) :
    checkPaths env p (paths ++ rest) = checkPaths env q rest := by
  induction paths generalizing p with
  | nil =>
      cases h
      rfl
  | cons path paths ih =>
      rw [checkPaths] at h
      rw [List.cons_append, checkPaths]
      rcases hstep : checkPath env p path with ⟨p', _ | _⟩
      · rw [hstep] at h
        cases h
      · rw [hstep] at h
        exact ih h

/-! ## The end of a check -/

/-- The echoed summary of errors alone. -/
theorem echoedSummary_eq (r : Reporter) (h : r.warnings = 0) :
    echoedSummary r = errorsFound r.errors := by
  rw [echoedSummary, Reporter.summary, h, errorsFound]
  by_cases hzero : r.errors = 0
  · rw [if_pos hzero, hzero]
    rfl
  · have hpart : r.summaryPart 0 .yellow "warning"
          ++ r.summaryPart r.errors .red "error"
        = [Text.ofNat r.errors ++ [' ']
          ++ r.renderer.palette.paint .red (Text.ofString "error")
          ++ (if r.errors = 1 then [] else ['s'])
          ++ Text.ofString " found"] := by
      rw [Reporter.summaryPart, if_pos rfl, Reporter.summaryPart, if_neg hzero,
        countString_natCast]
      rfl
    have hcount : Escape.esc ∉ Text.ofNat r.errors ++ [' '] := by
      rw [List.mem_append, not_or]
      exact ⟨Text.not_mem_ofNat (by decide) r.errors, by decide⟩
    have hrest : Escape.esc ∉ (if r.errors = 1 then [] else ['s'])
        ++ (Text.ofString " found" ++ ['\n']) := by
      split <;> decide
    have hecho := Escape.echoed_takesColors
    rw [if_neg hzero, hpart, Text.unlines, Text.join,
      if_neg (by simp [Text.ofString]), echo, Escape.stripEchoed]
    simp only [List.append_assoc]
    rw [← List.append_assoc, hecho.remove_plain_append hcount,
      hecho.remove_paint_append _ _ (by decide), hecho.remove_plain hrest]
    simp only [List.append_assoc]
    rfl

theorem exitStatus_eq (h : p.Accounts env renderer explain paths) :
    exitStatus p = statusOf env paths := by
  have hfails : p.reporter.hasErrors = paths.any (fails env) := by
    rw [Reporter.hasErrors, h.errors, Bool.eq_iff_iff, decide_eq_true_eq,
      gt_iff_lt, List.countP_pos_iff, List.any_eq_true]
  rw [exitStatus, statusOf, h.unreadable, hfails]

end Command

/-- The renderer that settings make, with the lexer of their language. -/
def Settings.rendererWith (s : Settings) (room : Nat) (lexer : Lexer) : Renderer where
  pageWidth := s.pageWidth
  highlighter := if s.color then Coloring.highlighter lexer else .plain
  palette := { enabled := s.color }
  room := room

theorem Session.renderer_eq (room : Nat) {languages : Languages} {s : Settings}
    {lexer : Lexer} (h : languages s.language = some lexer) :
    Session.renderer room languages s = .ok (s.rendererWith room lexer) := by
  rw [Session.renderer, Languages.highlighter, Languages.lexer, h,
    Settings.rendererWith]
  cases s.color with
  | false => rfl
  | true => rfl

namespace Command

theorem runCheck_accounts {settings : Settings} {lexer : Lexer}
    (hlanguage : env.languages settings.language = some lexer)
    (htell : ∀ path ∈ paths,
      CanTell env (settings.rendererWith env.host.room lexer) path) :
    (runCheck env settings paths).Accounts env
      (settings.rendererWith env.host.room lexer) settings.explain paths := by
  have hstart :=
    accounts_start env (settings.rendererWith env.host.room lexer) settings.explain
  obtain ⟨p, hcheck, hp⟩ := hstart.checkPaths htell
  rw [runCheck, Session.renderer_eq env.host.room hlanguage]
  simp only [hcheck]
  refine ⟨hp.requests, ?_, ?_⟩
  · rw [echoedSummary_eq p.reporter hp.warnings, hp.errors, hp.written]
    rfl
  · rw [exitStatus_eq hp]
    rfl

/-- A check ends at the first file whose diagnostic cannot be drawn. -/
theorem runCheck_of_undrawable {settings : Settings} {lexer : Lexer}
    {source : SourceFile} {fault : CompileFault} {extent : ExtentFault}
    (hlanguage : env.languages settings.language = some lexer)
    (htell : ∀ path ∈ paths,
      CanTell env (settings.rendererWith env.host.room lexer) path)
    (hfailing : failing? env path = some (source, fault))
    (htellable : fault.Tellable)
    (hdraw : (settings.rendererWith env.host.room lexer).render? fault.message
      (fault.position? source) none none = .error extent)
    (rest : List Text) :
    ∃ complaints, runCheck env settings (paths ++ path :: rest)
      = { ending := .raised (.check (.oversized extent))
          standardOutput :=
            (paths.map (diagnostic env (settings.rendererWith env.host.room lexer)
              settings.explain)).flatten
          standardError := complaints
          requests := (paths ++ [path]).filterMap (request? env) } := by
  have hstart :=
    accounts_start env (settings.rendererWith env.host.room lexer) settings.explain
  obtain ⟨p, hcheck, hp⟩ := hstart.checkPaths htell
  rw [List.nil_append] at hp
  rw [← hp.renderer_eq] at hdraw
  have hends := checkPath_of_undrawable hfailing htellable hdraw
  refine ⟨p.complaints, ?_⟩
  rw [runCheck, Session.renderer_eq env.host.room hlanguage]
  simp only [checkPaths_append (path :: rest) hcheck, checkPaths, hends]
  rw [hp.written, hp.requests, filterMap_concat]
  rfl

variable {arguments : List Text} {choices : Choices} {settings : Settings}
  {notices : List Notice} {lexer : Lexer}

theorem run_accounts
    (hparse : Invocation.parse env.files arguments = .ok (.check choices paths))
    (hload : Settings.load env.files (settingsSources env choices)
      = (.ok settings, notices))
    (hlanguage : env.languages settings.language = some lexer)
    (htell : ∀ path ∈ paths,
      CanTell env (settings.rendererWith env.host.room lexer) path) :
    (run env arguments).Accounts env (settings.rendererWith env.host.room lexer)
      settings.explain paths := by
  have haccounts := runCheck_accounts hlanguage htell
  rw [run, hparse]
  simp only [withSettings, hload]
  exact ⟨haccounts.requests, haccounts.output, haccounts.ending⟩

theorem statusOf_perm {paths' : List Text} (h : paths'.Perm paths) :
    statusOf env paths' = statusOf env paths := by
  rw [statusOf, statusOf, h.any_eq, h.any_eq]

/-- A check asks for each file that can be read, in order, and writes a diagnostic
for each that fails and the count of these; its exit status tells whether a file
could not be read or else whether one fails. The files can be given in any other
order; the diagnostics are in that order then, and the summary and the exit status
are the same. This takes that the faults have a line that there may be, if they have
one, and that their diagnostics can be drawn. -/
theorem check_accounts_for_files
    (hparse : Invocation.parse env.files arguments = .ok (.check choices paths))
    (hload : Settings.load env.files (settingsSources env choices)
      = (.ok settings, notices))
    (hlanguage : env.languages settings.language = some lexer)
    (hfaults : ∀ path ∈ paths, ∀ source fault,
      failing? env path = some (source, fault) → fault.Tellable)
    (hdrawn : ∀ path ∈ paths, ∀ source fault,
      failing? env path = some (source, fault) →
        fault.Drawable (settings.rendererWith env.host.room lexer) source) :
    let renderer := settings.rendererWith env.host.room lexer
    (run env arguments).Accounts env renderer settings.explain paths
    ∧ ∀ paths', paths'.Perm paths →
      invocationOf env.files .check choices paths' = .ok (.check choices paths')
        ∧ (paths'.map (diagnostic env renderer settings.explain)).Perm
          (paths.map (diagnostic env renderer settings.explain))
        ∧ errorsFound (paths'.countP (fails env))
          = errorsFound (paths.countP (fails env))
        ∧ ∀ arguments',
          Invocation.parse env.files arguments' = .ok (.check choices paths') →
          (run env arguments').Accounts env renderer settings.explain paths'
            ∧ (run env arguments').ending = (run env arguments).ending := by
  intro renderer
  have htell : ∀ path ∈ paths, CanTell env renderer path :=
    fun path hpath source fault hfailing =>
      ⟨hfaults path hpath source fault hfailing,
        hdrawn path hpath source fault hfailing⟩
  have haccounts := run_accounts hparse hload hlanguage htell
  refine ⟨haccounts, fun paths' hperm => ?_⟩
  refine ⟨invocationOf_perm (invocationOf_of_parse hparse) hperm, hperm.map _, ?_,
    fun arguments' hparse' => ?_⟩
  · rw [hperm.countP_eq]
  · have haccounts' := run_accounts hparse' hload hlanguage fun path hpath =>
      htell path (hperm.mem_iff.mp hpath)
    refine ⟨haccounts', ?_⟩
    rw [haccounts'.ending, haccounts.ending, statusOf_perm hperm]

/-- Without files of settings there are the defaults and what was chosen. -/
theorem load_of_absent {files : FileSystem} {sources : Settings.Sources}
    (hglobal : Settings.layer files sources.globalPath = (.ok [], []))
    (hproject : Settings.layer? files sources.projectPath = (.ok [], [])) :
    Settings.load files sources
      = (.ok (Settings.withoutColor sources.noColor
            (Settings.ofMembers (Settings.merge [] sources.overrides)).1),
          (Settings.ofMembers (Settings.merge [] sources.overrides)).2) := by
  rw [Settings.load, hglobal, hproject]
  simp only [Settings.merge]
  rfl

/-- A file that compiles, one that does not, and one that is not there; and the
same files the other way round. -/
theorem check_accounts_for_files_of_each_kind :
    let env : Environment :=
      { files :=
          { kind := fun _ => .error (.system .noSuchFile)
            read := fun path =>
              if path = ['c'] then .error (.system .noSuchFile)
              else .ok (Text.Utf8.encode path) }
        workingDirectory := ['/'], home := ['/']
        languages := fun _ => some Mini.lexer
        host :=
          { compile := fun request =>
              if request.text = ['a'] then .ok {}
              else .error (.invalid { line := some 1 })
            builtins := {}, moduleName := {} } }
    let renderer := ({} : Settings).rendererWith env.host.room Mini.lexer
    let arguments := [Text.ofString "check", ['a'], ['b'], ['c']]
    let arguments' := [Text.ofString "check", ['c'], ['b'], ['a']]
    (run env arguments).Accounts env renderer false [['a'], ['b'], ['c']]
      ∧ [['a'], ['b'], ['c']].map (fails env) = [false, true, false]
      ∧ (run env arguments).ending = .exit 2
      ∧ (run env arguments').ending = .exit 2 := by
  intro env renderer arguments arguments'
  have hparse : Invocation.parse env.files arguments
      = .ok (.check {} [['a'], ['b'], ['c']]) := rfl
  have hparse' : Invocation.parse env.files arguments'
      = .ok (.check {} [['c'], ['b'], ['a']]) := rfl
  have hmerge : Settings.merge [] (settingsSources env {}).overrides = [] := by
    simp [settingsSources, Choices.overrides, Settings.merge]
  have hload : Settings.load env.files (settingsSources env {}) = (.ok {}, []) := by
    rw [load_of_absent rfl rfl, hmerge]
    rfl
  have hfails : ∀ path ∈ [['a'], ['b'], ['c']], ∀ source fault,
      failing? env path = some (source, fault) →
        source = { path := ['b'], content := ['b'] }
          ∧ fault = .invalid { line := some 1 } := by
    intro path hpath source fault hfailing
    simp only [List.mem_cons, List.not_mem_nil, or_false] at hpath
    rcases hpath with rfl | rfl | rfl
    · cases hfailing
    · cases hfailing
      exact ⟨rfl, rfl⟩
    · cases hfailing
  obtain ⟨haccounts, hperm⟩ := check_accounts_for_files hparse hload rfl
    (by
      intro path hpath source fault hfailing
      obtain ⟨-, rfl⟩ := hfails path hpath source fault hfailing
      intro line hline
      cases hline
      decide)
    (by
      intro path hpath source fault hfailing
      obtain ⟨rfl, rfl⟩ := hfails path hpath source fault hfailing
      refine CompileFault.drawable (by decide) fun p hp => ?_
      cases hp
      decide)
  have hending := haccounts.ending
  obtain ⟨-, -, -, hother⟩ :=
    hperm _ (List.reverse_perm [['a'], ['b'], ['c']])
  obtain ⟨-, hsame⟩ := hother arguments' hparse'
  exact ⟨haccounts, rfl, hending, hsame.trans hending⟩

/-- Two files that do not compile, on a page so wide that no diagnostic can be
drawn: the second file is not even asked for, and there is no exit status. -/
theorem check_ends_at_undrawable :
    let env : Environment :=
      { files :=
          { kind := fun _ => .error (.system .noSuchFile)
            read := fun path => .ok (Text.Utf8.encode path) }
        workingDirectory := ['/'], home := ['/']
        languages := fun _ => some Mini.lexer
        host :=
          { compile := fun _ => .error (.invalid { line := some 1 })
            builtins := {}, moduleName := {} } }
    let choices : Choices := { pageWidth := some 9223372036854775900 }
    let settings : Settings := { pageWidth := 9223372036854775900 }
    let arguments :=
      ["check", "--page-width", "9223372036854775900", "a", "b"].map Text.ofString
    Invocation.parse env.files arguments = .ok (.check choices [['a'], ['b']])
      ∧ Settings.load env.files (settingsSources env choices) = (.ok settings, [])
      ∧ env.languages settings.language = some Mini.lexer
      ∧ (∀ path ∈ [['a'], ['b']], ∀ source fault,
        failing? env path = some (source, fault) → fault.Tellable)
      ∧ (run env arguments).requests
        = [SourceFile.request { path := ['a'], content := ['a'] }]
      ∧ (run env arguments).standardOutput = []
      ∧ (run env arguments).ending
        = .raised (.check (.oversized .beyondIndex))
      ∧ ¬ (run env arguments).Accounts env
        (settings.rendererWith env.host.room Mini.lexer) settings.explain
        [['a'], ['b']] := by
  intro env choices settings arguments
  have hparse : Invocation.parse env.files arguments
      = .ok (.check choices [['a'], ['b']]) := by decide +kernel
  have hmerge : Settings.merge [] (settingsSources env choices).overrides
      = [(Text.ofString "pageWidth", .integer 9223372036854775900)] := by
    simp [settingsSources, choices, Choices.overrides, Settings.merge,
      Table.insert]
  have hload : Settings.load env.files (settingsSources env choices)
      = (.ok settings, []) := by
    rw [load_of_absent rfl rfl, hmerge]
    rfl
  have hrun : run env arguments = runCheck env settings [['a'], ['b']] := by
    rw [run, hparse]
    simp only [withSettings, hload]
    rfl
  have hending : (run env arguments).ending
      = .raised (.check (.oversized .beyondIndex)) := by
    rw [hrun]
    decide +kernel
  refine ⟨hparse, hload, rfl, ?_, ?_, ?_, hending, fun haccounts => ?_⟩
  · intro path hpath source fault hfailing
    rcases List.mem_pair.mp hpath with rfl | rfl
    all_goals
      cases hfailing
      intro line hline
      cases hline
      decide
  · rw [hrun]
    decide +kernel
  · rw [hrun]
    decide +kernel
  · rw [haccounts.ending] at hending
    cases hending

end Command

end DiagnosticConsole
