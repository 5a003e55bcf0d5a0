import DiagnosticConsole.Proofs.Command.Check
import DiagnosticConsole.Proofs.Console.Script
import DiagnosticConsole.Proofs.Settings.Layers

/-!
# Notices for debugging on standard error

A session begins with a notice and, if it comes to its end in order, it ends with
one that tells how many inputs there were. Each event adds notices for debugging only,
and one that does not end the session is counted if it brings input (`Session.Logs`);
so it is with all events of a session (`Session.logsAll_run`). So a session tells
everything or nothing, as the settings of the run say.

The switch that the environment sets is in force while the settings are loaded, and
is set anew by what they say. It has no say in a session.
-/

namespace DiagnosticConsole

namespace Notice

/-- Tests for a notice for debugging. -/
def isDebug : Notice → Bool
  | .debug _ => true
  | .info _ | .warning .. => false

theorem renderAll_append (time : TimeOfDay) (debugging : Bool)
    (notices more : List Notice) :
    renderAll time debugging (notices ++ more)
      = renderAll time debugging notices ++ renderAll time debugging more := by
  rw [renderAll, List.flatMap_append]
  rfl

theorem renderAll_of_isDebug {notices : List Notice}
    (h : ∀ notice ∈ notices, notice.isDebug = true) (time : TimeOfDay) :
    renderAll time false notices = [] := by
  rw [renderAll, List.flatMap_eq_nil_iff]
  intro notice hnotice
  cases notice with
  | debug message => rfl
  | info | warning => cases h _ hnotice

end Notice

/-! ## What a session tells -/

namespace Session

/-- A session goes on telling, and only for debugging. -/
def State.Tells (state later : State) : Prop :=
  ∃ more, later.notices = state.notices ++ more
    ∧ ∀ notice ∈ more, notice.isDebug = true

theorem State.tells_of_notices_eq {state later : State}
    (h : later.notices = state.notices) : state.Tells later :=
  ⟨[], h.trans (List.append_nil _).symm, List.forall_mem_nil _⟩

theorem State.Tells.trans {state next later : State} (h : state.Tells next)
    (h' : next.Tells later) : state.Tells later := by
  obtain ⟨more, hnext, hmore⟩ := h
  obtain ⟨more', hlater, hmore'⟩ := h'
  refine ⟨more ++ more', ?_, List.forall_mem_append.mpr ⟨hmore, hmore'⟩⟩
  rw [hlater, hnext, List.append_assoc]

section Notices

variable {parser : LineParser} {host : Host} {evaluator : Evaluator} {notice : Notice}
  {text dotted : Text} {place : Int}

theorem isDebug_of_ofException {heading : Text} {e : Exception}
    (h : Notice.ofException heading e = .ok notice) : notice.isDebug = true := by
  rw [Notice.ofException_eq] at h
  split at h
  · rw [← Except.ok.inj h]
    rfl
  · cases h

theorem isDebug_of_mem_locateWord {tokenizer : Tokenizer}
    (h : notice ∈ (locateWord text place tokenizer).2) : notice.isDebug = true := by
  rw [locateWord] at h
  cases hat : Buffer.at? text place with
  | error fault =>
      rw [hat] at h
      cases h
  | ok buffer =>
      rw [hat] at h
      dsimp only at h
      split at h
      · cases h
      · split at h
        · cases h
        · split at h
          next hnotice =>
            rw [List.mem_singleton.mp h]
            exact isDebug_of_ofException hnotice
          next => cases h

theorem isDebug_of_mem_complete (h : notice ∈ (parser.complete text place).2) :
    notice.isDebug = true := by
  have hnotices : (parser.complete text place).2
      = (locateWord text place parser.tokenizer).2 := by
    rw [LineParser.complete]
    split
    next hlocated => rw [hlocated]
    next hlocated => rw [hlocated]
  rw [hnotices] at h
  exact isDebug_of_mem_locateWord h

theorem isDebug_of_mem_attributes (h : notice ∈ (evaluator.attributes host dotted).2) :
    notice.isDebug = true := by
  rw [Evaluator.attributes] at h
  split at h
  · cases h
  · split at h
    · cases h
    · cases h
    · split at h
      · cases h
      · split at h
        next hnotice =>
          rw [List.mem_singleton.mp h]
          exact isDebug_of_ofException hnotice
        next => cases h

theorem isDebug_of_mem_candidates
    (h : notice ∈ (evaluator.candidates host text place).2) : notice.isDebug = true := by
  rw [Evaluator.candidates] at h
  split at h
  · exact isDebug_of_mem_attributes h
  · split at h <;> cases h

end Notices

/-- What an event does to a session, as far as it shows in the log: a session goes on
after an event that is not the last, and has counted the input that it brought; it ends
in order with the last; or it ends with a fault of something that is in use by then. -/
inductive Logs (state : State) (event : Event) : Step → Prop where
  | goOn {later : State} (notLast : event.isLast = false) (tells : state.Tells later)
      (submitted : later.submitted
        = state.submitted + event.input?.toList.length) : Logs state event (.goOn later)
  | last (last : event.isLast = true) : Logs state event (.finish state (.ok ()))
  | fault {later : State} {fault : Fault} (tells : state.Tells later)
      (known : ∀ unknown, fault ≠ .language unknown) :
      Logs state event (.finish later (.error fault))

theorem logs_evaluate (host : Host) (state : State) {text : Text}
    (hquit : isQuit text = false) (hblank : text.all Text.isBlank = false) :
    Logs state (.submitted text) (evaluate host state text) := by
  rw [evaluate]
  split
  · refine .goOn hquit (State.tells_of_notices_eq rfl) ?_
    rw [Event.input?, hblank]
    rfl
  · exact .fault (State.tells_of_notices_eq rfl) fun _ => Fault.noConfusion

theorem logs_step (host : Host) (parser : LineParser) (state : State) (event : Event) :
    Logs state event (step host parser state event) := by
  cases event with
  | submitted text =>
      rw [step, isBlank_eq]
      cases hquit : isQuit text with
      | true => exact .last hquit
      | false =>
          cases hblank : text.all Text.isBlank with
          | true =>
              refine .goOn hquit (State.tells_of_notices_eq rfl) ?_
              rw [Event.input?, hblank]
              rfl
          | false => exact logs_evaluate host state hquit hblank
  | interrupted => exact .goOn rfl (State.tells_of_notices_eq rfl) rfl
  | ended => exact .last rfl
  | accept line cursor =>
      rw [step]
      cases (parser.accept line cursor).outcome with
      | ok decision => exact .goOn rfl (State.tells_of_notices_eq rfl) rfl
      | error fault =>
          exact .fault (State.tells_of_notices_eq rfl) fun _ => Fault.noConfusion
  | complete line cursor =>
      have htells : state.Tells (noteNotices state (parser.complete line cursor).2) :=
        ⟨_, rfl, fun _ => isDebug_of_mem_complete⟩
      rw [step]
      cases hparsed : parser.complete line cursor with
      | mk parsed notices =>
          rw [hparsed] at htells
          cases parsed with
          | ok parsed => exact .goOn rfl htells rfl
          | error fault => exact .fault htells fun _ => Fault.noConfusion
  | candidates text wordStart typed =>
      have htells : state.Tells
          (noteNotices state (state.evaluator.candidates host text wordStart).2) :=
        ⟨_, rfl, fun _ => isDebug_of_mem_candidates⟩
      rw [step]
      cases hlisted : state.evaluator.candidates host text wordStart with
      | mk names notices =>
          rw [hlisted] at htells
          cases names with
          | ok names => exact .goOn rfl htells rfl
          | error e => exact .fault htells fun _ => Fault.noConfusion

/-- What a session over events does as far as it shows in the log: if it ends in order
it has counted the inputs, whatever else was asked of it in between. -/
inductive LogsAll (state : State) (events : List Event) :
    State × Except Fault Unit → Prop where
  | inOrder {later : State} (tells : state.Tells later)
      (submitted : later.submitted = state.submitted + (inputs events).length) :
      LogsAll state events (later, .ok ())
  | fault {later : State} {fault : Fault} (tells : state.Tells later)
      (known : ∀ unknown, fault ≠ .language unknown) :
      LogsAll state events (later, .error fault)

theorem logsAll_run (host : Host) (parser : LineParser) (state : State)
    (events : List Event) : LogsAll state events (run host parser state events) := by
  induction events generalizing state with
  | nil => exact .inOrder (State.tells_of_notices_eq rfl) rfl
  | cons event rest ih =>
      have hstep := logs_step host parser state event
      rw [run]
      cases h : step host parser state event with
      | goOn next =>
          rw [h] at hstep
          obtain @⟨_, hlast, htells, hsubmitted⟩ := hstep
          have hrest := ih next
          show LogsAll state (event :: rest) (run host parser next rest)
          generalize run host parser next rest = finished at hrest ⊢
          cases hrest with
          | inOrder htells' hsubmitted' =>
              refine .inOrder (htells.trans htells') ?_
              rw [hsubmitted', hsubmitted, inputs_cons hlast, List.length_append,
                Nat.add_assoc]
          | fault htells' hknown => exact .fault (htells.trans htells') hknown
      | finish later outcome =>
          -- what is behind the last event is no input
          rw [h] at hstep
          cases hstep with
          | last hlast =>
              refine .inOrder (State.tells_of_notices_eq rfl) ?_
              rw [inputs_cons_of_last hlast]
              rfl
          | fault htells hknown => exact .fault htells hknown

theorem notices_setup {host : Host} {languages : Languages} {s : Settings}
    {config : SessionConfig} {begun : Setup}
    (h : setup host languages s config = .ok begun) :
    begun.state.notices = [.sessionStarted s.language config.pageWidth] := by
  rw [setup] at h
  split at h
  · cases h
  · cases h
  · obtain rfl := Except.ok.inj h
    rfl

/-- The notice at the end of a session, if it ended in order. -/
def closing (events : List Event) : Except Fault Nat → List Notice
  | .ok _ => [.sessionEnded (inputs events).length]
  | .error _ => []

/-- What a whole session has to tell: that it began, what came up, and if it came to
its end in order, how many inputs there were. -/
structure Report.Tells (s : Settings) (config : SessionConfig) (events : List Event)
    (between : List Notice) (report : Report) : Prop where
  debug : ∀ notice ∈ between, notice.isDebug = true
  notices : report.notices = [.sessionStarted s.language config.pageWidth] ++ between
    ++ closing events report.outcome
  known : ∀ unknown, report.outcome ≠ .error (.language unknown)

theorem Report.Tells.isDebug_of_mem {s : Settings} {config : SessionConfig}
    {events : List Event} {between : List Notice} {report : Report}
    (h : report.Tells s config events between) :
    ∀ notice ∈ report.notices, notice.isDebug = true := by
  rw [h.notices, List.forall_mem_append, List.forall_mem_append]
  refine ⟨⟨List.forall_mem_singleton.mpr rfl, h.debug⟩, ?_⟩
  cases report.outcome with
  | ok submitted => exact List.forall_mem_singleton.mpr rfl
  | error fault => exact List.forall_mem_nil _

theorem start_tells {host : Host} {languages : Languages} {s : Settings}
    {config : SessionConfig} {begun : Setup}
    (h : setup host languages s config = .ok begun) (events : List Event) :
    ∃ between, (start host languages s config events).Tells s config events between := by
  have hall := logsAll_run host begun.parser begun.state events
  rw [start_eq_report h]
  generalize run host begun.parser begun.state events = finished at hall ⊢
  cases hall with
  | inOrder htells hsubmitted =>
      obtain ⟨between, hnotices, hdebug⟩ := htells
      rw [(recorded_setup h).2, Nat.zero_add] at hsubmitted
      refine ⟨between, hdebug, ?_, ?_⟩
      · rw [report, hnotices, notices_setup h, hsubmitted]
        rfl
      · intro unknown houtcome
        cases houtcome
  | fault htells hknown =>
      obtain ⟨between, hnotices, hdebug⟩ := htells
      refine ⟨between, hdebug, ?_, ?_⟩
      · rw [report, hnotices, notices_setup h]
        exact (List.append_nil _).symm
      · intro unknown houtcome
        exact hknown unknown (Except.error.inj houtcome)

end Session

/-! ## What comes to standard error -/

namespace Command

/-- A run comes to a session with settings, and there is something to tell about the
files of settings. -/
structure BeginsSession (env : Environment) (arguments : List Text) (choices : Choices)
    (settings : Settings) (notices : List Notice) : Prop where
  parsed : ∃ scope, Invocation.parse env.files arguments = .ok (.repl scope choices)
  loaded : Settings.load env.files (settingsSources env choices)
    = (.ok settings, notices)
  begun : ∃ begun, Session.setup env.host env.languages settings
    (SessionConfig.ofSettings settings) = .ok begun

/-- The line about the beginning of a session. -/
def startLine (env : Environment) (settings : Settings) : Text :=
  Notice.render env.time true
    (.sessionStarted settings.language settings.pageWidth)

/-- The line about the end of a session with all inputs of the terminal. -/
def endLine (env : Environment) : Text :=
  Notice.render env.time true (.sessionEnded (Session.inputs env.events).length)

/-- The lines about a session are in what a run tells exactly if they are asked for;
the one about its end only if it ended in order. -/
structure TellsSession (env : Environment) (settings : Settings) (ending : Ending)
    (told : Text) (asked : Prop) : Prop where
  started : startLine env settings <:+: told ↔ asked
  ended : ending = .exit 0 → (endLine env <:+: told ↔ asked)

variable {env : Environment} {arguments : List Text} {choices : Choices}
  {settings : Settings} {notices : List Notice}

theorem Ending.ofFault_ne_exit (fault : Fault) (status : Nat) :
    Ending.ofFault fault ≠ .exit status := by
  rw [Ending.ofFault]
  split
  · split <;> exact Ending.noConfusion
  · exact Ending.noConfusion

theorem nodup_keys_overrides (choices : Choices) :
    (Table.keys choices.overrides).Nodup := by
  show ["pageWidth", "color", "explain", "language", "debug"].map Text.ofString |>.Nodup
  decide

/-- A session writes all that it tells, as its settings say, and the program exits
with zero exactly if the session ended in order. -/
theorem runSession_of_known {scope : Scope} {report : Session.Report}
    (hreport : Session.start env.host env.languages settings
      (SessionConfig.ofSettings settings) env.events = report)
    (hknown : ∀ unknown, report.outcome ≠ .error (.language unknown)) :
    (runSession env scope settings).standardError
        = Notice.renderAll env.time settings.debug report.notices
      ∧ ((runSession env scope settings).ending = .exit 0
        ↔ ∃ submitted, report.outcome = .ok submitted) := by
  rw [runSession, hreport]
  dsimp only
  split
  next submitted hok => exact ⟨rfl, iff_of_true rfl ⟨submitted, hok⟩⟩
  next unknown hlanguage => exact absurd hlanguage (hknown unknown)
  next fault hfault =>
    refine ⟨rfl, iff_of_false (Ending.ofFault_ne_exit _ 0) ?_⟩
    rintro ⟨submitted, hok⟩
    cases hfault.symm.trans hok

theorem renderAll_notices_of_tells {between : List Notice}
    {report : Session.Report} {ending : Ending}
    (h : report.Tells settings (SessionConfig.ofSettings settings) env.events between)
    (hending : ending = .exit 0 ↔ ∃ submitted, report.outcome = .ok submitted) :
    Notice.renderAll env.time true report.notices
      = startLine env settings ++ Notice.renderAll env.time true between
        ++ if ending = .exit 0 then endLine env else [] := by
  have hstart : Notice.renderAll env.time true
      [.sessionStarted settings.language settings.pageWidth] = startLine env settings :=
    List.append_nil _
  have hclosing : Notice.renderAll env.time true
      (Session.closing env.events report.outcome)
      = if ending = .exit 0 then endLine env else [] := by
    cases houtcome : report.outcome with
    | ok submitted =>
        rw [if_pos (hending.mpr ⟨submitted, houtcome⟩)]
        exact List.append_nil _
    | error fault =>
        have hexit : ¬ ending = .exit 0 := by
          intro hexit
          obtain ⟨submitted, hok⟩ := hending.mp hexit
          cases houtcome.symm.trans hok
        rw [if_neg hexit]
        rfl
  rw [h.notices, Notice.renderAll_append, Notice.renderAll_append, hclosing, ← hstart]
  rfl

/-- A session tells all that it has to tell, or nothing, as its settings say. -/
theorem BeginsSession.told (h : BeginsSession env arguments choices settings notices) :
    ∃ told, (run env arguments).standardError
        = Notice.renderAll env.time env.debug notices ++ told
      ∧ (settings.debug = false → told = [])
      ∧ (settings.debug = true → ∃ between, told = startLine env settings ++ between
        ++ if (run env arguments).ending = .exit 0 then endLine env else []) := by
  obtain ⟨scope, hparse⟩ := h.parsed
  obtain ⟨begun, hsetup⟩ := h.begun
  obtain ⟨between, htells⟩ := Session.start_tells hsetup env.events
  obtain ⟨herror, hending⟩ := @runSession_of_known env settings scope _ rfl htells.known
  have hrun : run env arguments = (runSession env scope settings).after
      (Notice.renderAll env.time env.debug notices) := by
    rw [run, hparse]
    simp only [withSettings, h.loaded]
  rw [hrun]
  refine ⟨(runSession env scope settings).standardError, rfl, ?_, ?_⟩
  · intro hdebug
    rw [herror, hdebug]
    exact Notice.renderAll_of_isDebug htells.isDebug_of_mem env.time
  · intro hdebug
    refine ⟨Notice.renderAll env.time true between, ?_⟩
    rw [herror, hdebug]
    exact renderAll_notices_of_tells htells hending

theorem BeginsSession.settles_debug
    (h : BeginsSession env arguments choices settings notices) :
    ∃ layers ignored, Settings.Layered env.files (settingsSources env choices) layers
      ∧ Settings.Settles .debug
        (Settings.topmost? layers Settings.Field.debug.key) settings.debug ignored := by
  obtain ⟨layers, hlayers⟩ :=
    Settings.layered_of_load h.loaded (nodup_keys_overrides choices)
  obtain ⟨s, notices', hload, hfields⟩ := Settings.load_settles hlayers
  obtain rfl : s = settings :=
    Except.ok.inj (congrArg Prod.fst (hload.symm.trans h.loaded))
  obtain ⟨x, ignored, hsettles, hget, -⟩ := hfields .debug
  obtain rfl : s.debug = x := hget
  exact ⟨layers, ignored, hlayers, hsettles⟩

theorem render_debug_ne_nil {time : TimeOfDay} {message : Text} :
    Notice.render time true (.debug message) ≠ [] :=
  List.concat_ne_nil _ _

theorem tellsSession_of_told {ending : Ending} {told : Text}
    (hsilent : settings.debug = false → told = [])
    (htold : settings.debug = true → ∃ between, told = startLine env settings ++ between
      ++ if ending = .exit 0 then endLine env else []) :
    TellsSession env settings ending told (settings.debug = true) := by
  cases hdebug : settings.debug with
  | false =>
      rw [hsilent hdebug]
      refine ⟨iff_of_false ?_ Bool.false_ne_true,
        fun _ => iff_of_false ?_ Bool.false_ne_true⟩
      · exact fun h => render_debug_ne_nil (List.infix_nil.mp h)
      · exact fun h => render_debug_ne_nil (List.infix_nil.mp h)
  | true =>
      obtain ⟨between, rfl⟩ := htold hdebug
      refine ⟨iff_of_true ?_ rfl, fun hexit => iff_of_true ?_ rfl⟩
      · rw [List.append_assoc]
        exact (List.prefix_append _ _).isInfix
      · rw [if_pos hexit]
        exact (List.suffix_append _ _).isInfix

/-- What a run tells about its session follows the debug setting alone, which is
settled by the highest layer that gives it: all lines, or none. So the lines are there
exactly if they are asked for by the settings or from the start, as long as what is
asked for from the start is asked for by the settings too. -/
theorem session_logged_by_settings
    (h : BeginsSession env arguments choices settings notices) :
    ∃ told, (run env arguments).standardError
        = Notice.renderAll env.time env.debug notices ++ told
      ∧ (∃ layers ignored,
        Settings.Layered env.files (settingsSources env choices) layers
          ∧ Settings.Settles .debug
            (Settings.topmost? layers Settings.Field.debug.key) settings.debug ignored)
      ∧ (settings.debug = false → told = [])
      ∧ (settings.debug = true → ∃ between, told = startLine env settings ++ between
        ++ if (run env arguments).ending = .exit 0 then endLine env else [])
      ∧ TellsSession env settings (run env arguments).ending told
        (settings.debug = true)
      ∧ (TellsSession env settings (run env arguments).ending told
          (env.debug = true ∨ settings.debug = true)
        ↔ (env.debug = true → settings.debug = true)) := by
  obtain ⟨told, herror, hsilent, htold⟩ := h.told
  have htells := tellsSession_of_told hsilent htold
  refine ⟨told, herror, h.settles_debug, hsilent, htold, htells, ?_, ?_⟩
  · intro hasked henv
    exact htells.started.mp (hasked.started.mpr (.inl henv))
  · intro hsettings
    have hsame : (env.debug = true ∨ settings.debug = true) = (settings.debug = true) :=
      propext (or_iff_right_of_imp hsettings)
    rw [hsame]
    exact htells

/-- A flag for debugging, two inputs, and a request for candidates in between. -/
theorem session_logged_by_settings_flag :
    let env : Environment :=
      { files :=
          { kind := fun _ => .error (.system .noSuchFile)
            read := fun _ => .error (.system .noSuchFile) }
        workingDirectory := ['/'], home := ['/']
        languages := fun _ => some Mini.lexer
        host := { compile := fun _ => .ok {}, builtins := {}, moduleName := {} }
        events := [.submitted ['a'], .candidates ['a', '.'] 2 [], .submitted ['b']] }
    let arguments := [Text.ofString "repl", Text.ofString "--debug"]
    let error := (run env arguments).standardError
    startLine env { debug := true } <:+: error
      ∧ Notice.render env.time true (.sessionEnded 2) <:+: error := by
  intro env arguments error
  have hmerge : Settings.merge [] (settingsSources env { debug := true }).overrides
      = [(Text.ofString "debug", .bool true)] := by
    simp [settingsSources, Choices.overrides, Settings.merge, Table.insert]
  have hload : Settings.load env.files (settingsSources env { debug := true })
      = (.ok { debug := true }, []) := by
    rw [load_of_absent rfl rfl, hmerge]
    rfl
  have hbegins : BeginsSession env arguments { debug := true } { debug := true } [] :=
    ⟨⟨_, rfl⟩, hload, _, rfl⟩
  obtain ⟨told, herror, -, -, -, htells, -⟩ := session_logged_by_settings hbegins
  have hexit : (run env arguments).ending = .exit 0 := by
    have hrun : (run env arguments).ending
        = (runSession env (.command .repl) { debug := true }).ending := by
      rw [run]
      show (withSettings env { debug := true } _).ending = _
      rw [withSettings, hload]
      rfl
    rw [hrun]
    rfl
  have htold : error = told := herror
  rw [htold]
  exact ⟨htells.started.mpr rfl, (htells.ended hexit).mpr rfl⟩

/-- With debugging wanted from the start and no settings, a session that is begun and
ended has nothing on standard error. -/
theorem session_silent_though_asked_for :
    let env : Environment :=
      { files :=
          { kind := fun _ => .error (.system .noSuchFile)
            read := fun _ => .error (.system .noSuchFile) }
        workingDirectory := ['/'], home := ['/'], debug := true
        languages := fun _ => some Mini.lexer
        host := { compile := fun _ => .ok {}, builtins := {}, moduleName := {} } }
    BeginsSession env [] {} {} []
      ∧ (run env []).standardError = []
      ∧ ¬ TellsSession env {} (run env []).ending (run env []).standardError
        (env.debug = true ∨ ({} : Settings).debug = true) := by
  intro env
  have hmerge : Settings.merge [] (settingsSources env {}).overrides = [] := by
    simp [settingsSources, Choices.overrides, Settings.merge]
  have hload : Settings.load env.files (settingsSources env {}) = (.ok {}, []) := by
    rw [load_of_absent rfl rfl, hmerge]
    rfl
  have hbegins : BeginsSession env [] {} {} [] := ⟨⟨_, rfl⟩, hload, _, rfl⟩
  obtain ⟨told, herror, hsilent, -⟩ := hbegins.told
  have hempty : (run env []).standardError = [] := by
    rw [herror, hsilent rfl]
    rfl
  refine ⟨hbegins, hempty, ?_⟩
  rintro ⟨hstarted, -⟩
  rw [hempty] at hstarted
  exact render_debug_ne_nil (List.infix_nil.mp (hstarted.mpr (.inl rfl)))

end Command

end DiagnosticConsole
