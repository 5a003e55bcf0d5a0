import DiagnosticConsole.Proofs.Evaluation.Run
import DiagnosticConsole.Proofs.Table
import Mathlib.Data.List.Induction
import Mathlib.Data.List.Nodup

/-!
# Inputs are kept apart

An evaluator keeps its inputs under numbered names, and whatever becomes of an
input it takes up a number. So the names are all different, setting a source
never finds another in its place, and the table of sources does nothing but grow
at its end.

`Recorded` says which inputs an evaluator has had. It determines everything but
the reporter and the bindings, and a run turns the record of some inputs into
the record of those and one more; that is all the induction there is. A frame
with the name of a number is then a frame in the input of that number, and the
diagnostic shows a line of that input.
-/

namespace DiagnosticConsole.Evaluator

/-! ## Numbered names -/

theorem consoleFilename_inj {m n : Nat}
    (h : consoleFilename m = consoleFilename n) : m = n := by
  have hdigits : Nat.toDigits 10 m = Nat.toDigits 10 n :=
    List.append_cancel_left (List.append_cancel_right h)
  calc
    m = Nat.ofDigitChars 10 (Nat.toDigits 10 m) 0 :=
      Nat.ofDigitChars_ten_toDigits.symm
    _ = Nat.ofDigitChars 10 (Nat.toDigits 10 n) 0 := by rw [hdigits]
    _ = n := Nat.ofDigitChars_ten_toDigits

/-! ## The record of some inputs -/

/-- What the host is asked for inputs that come one after the other. -/
def requestsOf (texts : List Text) : List CompileRequest :=
  texts.mapIdx fun i text => inputRequest (i + 1) text

/-- The row that a request adds to the sources, if it compiles. -/
def rowOf? (host : Host) (request : CompileRequest) :
    Option (Text × SourceFile) :=
  match host.compile request with
  | .ok _ => some (request.filename, inputSource request.text)
  | .error _ => none

/-- The sources that are kept of inputs that come one after the other. -/
def sourcesOf (host : Host) (texts : List Text) : Table SourceFile :=
  (requestsOf texts).filterMap (rowOf? host)

/-- The evaluator has had these inputs and no others. -/
structure Recorded (host : Host) (texts : List Text) (e : Evaluator) : Prop where
  inputs : e.inputs = texts.length
  requests : e.requests = requestsOf texts
  sources : e.sources = sourcesOf host texts

theorem requestsOf_concat (texts : List Text) (text : Text) :
    requestsOf (texts ++ [text])
      = requestsOf texts ++ [inputRequest (texts.length + 1) text] :=
  List.mapIdx_concat

theorem sourcesOf_concat (host : Host) (texts : List Text) (text : Text) :
    sourcesOf host (texts ++ [text])
      = sourcesOf host texts
        ++ (rowOf? host (inputRequest (texts.length + 1) text)).toList := by
  rw [sourcesOf, requestsOf_concat, List.filterMap_append]
  rfl

theorem mem_sourcesOf {host : Host} {texts : List Text} {name : Text}
    {source : SourceFile} :
    (name, source) ∈ sourcesOf host texts
      ↔ ∃ (k : Nat) (text : Text) (code : Code), texts[k]? = some text
        ∧ host.compile (inputRequest (k + 1) text) = .ok code
        ∧ name = consoleFilename (k + 1 : Nat) ∧ source = inputSource text := by
  rw [sourcesOf, List.mem_filterMap]
  constructor
  · rintro ⟨request, hrequest, hrow⟩
    obtain ⟨k, hk, rfl⟩ := List.mem_mapIdx.mp hrequest
    rw [rowOf?] at hrow
    split at hrow
    · next code hcode =>
        obtain ⟨rfl, rfl⟩ := Prod.mk.inj (Option.some.inj hrow)
        exact ⟨k, texts[k], code, List.getElem?_eq_getElem hk, hcode, rfl, rfl⟩
    · cases hrow
  · rintro ⟨k, text, code, hk, hcode, rfl, rfl⟩
    obtain ⟨hlt, rfl⟩ := List.getElem?_eq_some_iff.mp hk
    refine ⟨_, List.mem_mapIdx.mpr ⟨k, hlt, rfl⟩, ?_⟩
    rw [rowOf?, hcode]
    rfl

/-- The name of the next input is none that is there. -/
theorem consoleFilename_not_mem_keys (host : Host) (texts : List Text) :
    consoleFilename (texts.length + 1 : Nat)
      ∉ Table.keys (sourcesOf host texts) := by
  intro hmem
  obtain ⟨⟨name, source⟩, hrow, hname⟩ := List.mem_map.mp hmem
  obtain ⟨k, text, code, hk, -, rfl, -⟩ := mem_sourcesOf.mp hrow
  have hlt := (List.getElem?_eq_some_iff.mp hk).1
  have := consoleFilename_inj hname
  omega

theorem nodup_keys_sourcesOf (host : Host) (texts : List Text) :
    (Table.keys (sourcesOf host texts)).Nodup := by
  induction texts using List.reverseRecOn with
  | nil => exact List.nodup_nil
  | append_singleton texts text ih =>
      rw [sourcesOf_concat, Table.keys, List.map_append, rowOf?]
      split
      · refine List.nodup_append.mpr ⟨ih, List.nodup_singleton _, ?_⟩
        rintro name hname _ hlast rfl
        rw [List.mem_singleton.mp hlast] at hname
        exact consoleFilename_not_mem_keys host texts hname
      · rw [Option.toList_none, List.map_nil, List.append_nil]
        exact ih

/-- Under the name of an input is that input, if it compiled, and under any
other name is nothing. -/
theorem get?_sourcesOf {host : Host} {texts : List Text} {name : Text}
    {source : SourceFile} :
    Table.get? (sourcesOf host texts) name = some source
      ↔ ∃ (k : Nat) (text : Text) (code : Code), texts[k]? = some text
        ∧ host.compile (inputRequest (k + 1) text) = .ok code
        ∧ name = consoleFilename (k + 1 : Nat) ∧ source = inputSource text := by
  rw [Table.get?_eq_some_iff (nodup_keys_sourcesOf host texts), mem_sourcesOf]

theorem sourcesOf_isPrefix (host : Host) (texts more : List Text) :
    sourcesOf host texts <+: sourcesOf host (texts ++ more) := by
  rw [sourcesOf, sourcesOf, requestsOf, requestsOf, List.mapIdx_append,
    List.filterMap_append]
  exact List.prefix_append _ _

/-! ## Runs keep the record -/

/-- A run adds its input to the record, whatever becomes of it. -/
theorem Recorded.run {host : Host} {texts : List Text} {e : Evaluator}
    (h : Recorded host texts e) (text : Text) :
    Recorded host (texts ++ [text]) (e.run host text).1 := by
  obtain ⟨reporter, hrun⟩ := run_fst host e text
  have hrequest : e.nextRequest text = inputRequest (texts.length + 1) text := by
    rw [nextRequest, h.inputs]
  rw [hrun]
  refine ⟨?_, ?_, ?_⟩
  · rw [advanced_inputs, h.inputs, List.length_append]
    rfl
  · rw [advanced_requests, h.requests, hrequest, requestsOf_concat]
  · rw [sourcesOf_concat, rowOf?, ← hrequest, advanced]
    cases host.compile (e.nextRequest text) with
    | ok code =>
        have hfresh := consoleFilename_not_mem_keys host texts
        simp only [h.sources, hrequest, inputRequest]
        rw [Table.insert_of_not_mem _ hfresh]
        rfl
    | error fault =>
        simp only [h.sources, Option.toList_none, List.append_nil]

theorem Recorded.runAll {host : Host} {texts : List Text} {e : Evaluator}
    (h : Recorded host texts e) (more : List Text) :
    Recorded host (texts ++ more) (e.runAll host more) := by
  induction more generalizing texts e with
  | nil =>
      rw [List.append_nil]
      exact h
  | cons text more ih =>
      rw [Evaluator.runAll, List.foldl_cons, List.append_cons]
      exact ih (h.run text)

/-- An evaluator without a past has an empty record. -/
theorem recorded_new (host : Host) (reporter : Reporter)
    (bindings : Table HostObject) :
    Recorded host [] { reporter, bindings } :=
  ⟨rfl, rfl, rfl⟩

/-! ## Exceptions in earlier inputs -/

/-- Running the next input raises an exception, and of its frames in kept
sources the innermost is on a line of the input of a number. -/
structure RaisesIn (host : Host) (e : Evaluator) (text : Text) (x : Exception)
    (number line : Nat) : Prop where
  failure : e.failure? host text = some (.running x)
  notExit : x.family ≠ .exit
  frame : ∃ outer frame inner, x.frames = outer ++ frame :: inner
    ∧ frame.filename = consoleFilename number ∧ frame.line = some (line : Int)
    ∧ Table.has (e.run host text).1.sources frame.filename = true
    ∧ ∀ f ∈ inner, Table.has (e.run host text).1.sources f.filename = false

/-- The input of the number is the one under the frame's name, so the exception
is reported there, if its text can be read. -/
theorem Recorded.reportedAs {host : Host} {texts : List Text} {e : Evaluator}
    (h : Recorded host texts e) {text : Text} {x : Exception} {k line : Nat}
    (hraises : RaisesIn host e text x (k + 1) line) :
    ∃ input, (texts ++ [text])[k]? = some input
      ∧ (1 ≤ line → line ≤ (inputSource input).lineCount →
        ∃ span, span.startLine = line
          ∧ ∀ said, x.text = .ok said →
            ReportedAs e.reporter (raisedMessage x said)
              (some { source := inputSource input, span }) (e.run host text)) := by
  have hpassing := Failure.passing?_of_not_exit hraises.notExit
  obtain ⟨hfailure, -, outer, frame, inner, hframes, hname, hline, hhas, hinner⟩ :=
    hraises
  obtain ⟨source, hsource⟩ := Option.isSome_iff_exists.mp hhas
  have hsource' := hsource
  rw [(h.run text).sources, hname] at hsource'
  obtain ⟨k', input, code, hk, -, hnumber, rfl⟩ := get?_sourcesOf.mp hsource'
  obtain rfl : k = k' := Nat.succ.inj (consoleFilename_inj hnumber)
  refine ⟨input, hk, fun hfirst hlast => ?_⟩
  have hnone : ∀ f ∈ inner,
      Table.get? (e.run host text).1.sources f.filename = none := by
    intro f hf
    have hhasNot := hinner f hf
    rw [Table.has, Option.isSome_eq_false_iff, Option.isNone_iff_eq_none]
      at hhasNot
    exact hhasNot
  obtain ⟨span, hsite, hspan⟩ :=
    Evaluation.tracebackSite_eq_some outer hsource hnone hline (by omega)
      (by omega)
  refine ⟨span, by omega, fun said hsaid => ?_⟩
  rw [Exception.textFault?_of_text hsaid] at hpassing
  rw [← Exception.message_of_text hsaid]
  refine reportedAs_run hfailure hpassing ?_
  rw [Failure.site?, hframes]
  exact hsite

/-- What a diagnostic shows of the input that it is about. -/
theorem excerpt_eq {input row : Text} {span : Span} (r : Renderer)
    (message : Message) (hfirst : 1 ≤ span.startLine)
    (hrow : (SourceFile.linesOf input)[span.startLine - 1]? = some row) :
    (r.render message
        (some (Position.ofSite { source := inputSource input, span })) none
        none).body.head?
      = some (Text.ofNat span.startLine ++ [':']
        ++ r.highlighter.apply (Text.withoutTerminator row)) := by
  have hline : (inputSource input).lineContent span.startLine = row :=
    SourceFile.lineContent_eq_of_getElem? hfirst hrow
  rw [← hline]
  rfl

/-- Whatever becomes of the inputs of an evaluator, they are asked for under
names of their own, those that compile are kept under these names, and what is
kept stays. So an exception in an earlier input is shown with a line of that
input; nothing is shown of one whose text cannot be read. -/
theorem inputs_kept_apart (host : Host) (reporter : Reporter)
    (bindings : Table HostObject) (texts : List Text) :
    let e := runAll host { reporter, bindings } texts
    (e.requests.length = texts.length
      ∧ ∀ (k : Nat) (text : Text), texts[k]? = some text →
        e.requests[k]? = some
          { text, filename := consoleFilename (k + 1 : Nat), mode := .single })
    ∧ (∀ name source, Table.get? e.sources name = some source
      ↔ ∃ (k : Nat) (text : Text) (code : Code), texts[k]? = some text
        ∧ host.compile (inputRequest (k + 1) text) = .ok code
        ∧ name = consoleFilename (k + 1 : Nat) ∧ source = inputSource text)
    ∧ (∀ more, e.sources <+: (e.runAll host more).sources)
    ∧ ∀ (text : Text) (x : Exception) (k line : Nat),
      RaisesIn host e text x (k + 1) line →
      ∃ input, (texts ++ [text])[k]? = some input
        ∧ (1 ≤ line → line ≤ (inputSource input).lineCount →
          ∃ span row, (SourceFile.linesOf input)[line - 1]? = some row
            ∧ ∀ said, x.text = .ok said →
              ReportedAs e.reporter (raisedMessage x said)
                (some { source := inputSource input, span }) (e.run host text)
              ∧ (e.reporter.renderer.render (raisedMessage x said)
                  (some (Position.ofSite { source := inputSource input, span }))
                  none none).body.head?
                = some (Text.ofNat line ++ [':']
                  ++ e.reporter.renderer.highlighter.apply
                    (Text.withoutTerminator row)))
        ∧ ∀ fault, x.text = .error fault →
          (e.run host text).2 = .error (.raised fault)
            ∧ (e.run host text).1.reporter = e.reporter := by
  intro e
  have h : Recorded host texts e :=
    (recorded_new host reporter bindings).runAll texts
  refine ⟨⟨?_, fun k text hk => ?_⟩, fun name source => ?_, fun more => ?_,
    fun text x k line hraises => ?_⟩
  · rw [h.requests, requestsOf, List.length_mapIdx]
  · rw [h.requests, requestsOf, List.getElem?_mapIdx, hk]
    rfl
  · rw [h.sources]
    exact get?_sourcesOf
  · rw [h.sources, (h.runAll more).sources]
    exact sourcesOf_isPrefix host texts more
  · obtain ⟨input, hinput, hreported⟩ := h.reportedAs hraises
    refine ⟨input, hinput, fun hfirst hlast => ?_, fun fault hfault => ?_⟩
    · obtain ⟨span, rfl, hreport⟩ := hreported hfirst hlast
      have hrow : span.startLine - 1 < (SourceFile.linesOf input).length :=
        Nat.lt_of_lt_of_le (Nat.sub_one_lt_of_lt hfirst) hlast
      exact ⟨span, _, List.getElem?_eq_getElem hrow, fun said hsaid =>
        ⟨hreport said hsaid,
          excerpt_eq _ _ hfirst (List.getElem?_eq_getElem hrow)⟩⟩
    · have hpassing := Failure.passing?_of_not_exit hraises.notExit
      rw [Exception.text_eq_error_iff.mp hfault] at hpassing
      exact run_of_passing hraises.failure hpassing

/-- Behind two inputs of which the second does not compile, one that raises in
the first, on its second line, and further in in code that is not kept. -/
theorem inputs_kept_apart_raised_in_first :
    let x : Exception :=
      { name := Text.ofString "E"
        frames :=
          [{ filename := consoleFilename 3, line := some 1 },
           { filename := consoleFilename 1, line := some 2 },
           { filename := consoleFilename 2, line := some 1 }] }
    let host : Host :=
      { compile := fun request =>
          if request.text = ['?'] then .error (.invalid {})
          else if request.text = ['!'] then
            .ok { execution := { raised := some x } }
          else .ok {}
        builtins := {}
        moduleName := {} }
    let first := Text.ofString "a\nb"
    let e := runAll host { reporter := { renderer := {} }, bindings := [] }
      [first, ['?']]
    RaisesIn host e ['!'] x 1 2 ∧ (inputSource first).lineCount = 2
      ∧ ∃ span,
        ReportedAs e.reporter (raisedMessage x [])
            (some { source := inputSource first, span }) (e.run host ['!'])
          ∧ (e.reporter.renderer.render (raisedMessage x [])
              (some (Position.ofSite { source := inputSource first, span }))
              none none).body.head? = some (Text.ofString "2:b") := by
  intro x host first e
  have hraises : RaisesIn host e ['!'] x 1 2 :=
    ⟨rfl, by decide, [{ filename := consoleFilename 3, line := some 1 }], _,
      [{ filename := consoleFilename 2, line := some 1 }], rfl, rfl, rfl,
      by decide, by decide⟩
  obtain ⟨input, hinput, hshown, -⟩ :=
    (inputs_kept_apart host { renderer := {} } [] [first, ['?']]).2.2.2
      ['!'] x 0 2 hraises
  obtain rfl : first = input := Option.some.inj hinput
  obtain ⟨span, row, hrow, hreported⟩ := hshown (by decide) (by decide)
  obtain ⟨hreport, hexcerpt⟩ := hreported [] rfl
  obtain rfl : ['b'] = row := Option.some.inj hrow
  exact ⟨hraises, rfl, span, hreport, hexcerpt⟩

end DiagnosticConsole.Evaluator
