import DiagnosticConsole.Console.Session
import DiagnosticConsole.Proofs.Evaluation.DottedName
import DiagnosticConsole.Proofs.Host.Exception

/-!
# The candidates for a word

Behind a dotted name the candidates come from one walk over objects: the first
identifier stands for an object, and each of the others is an attribute to read. A
walk either reaches an object and lists it, or something goes wrong on the way or at
the end (`reaches_or_fails`). An ordinary exception that goes wrong there is told of,
and then there are no candidates; only what comes up when it is told of comes out
(`attributes_of_fails`). Nothing watches over the list of what is always there.
-/

namespace DiagnosticConsole

/-! ## The walk -/

namespace HostObject

/-- Reading one attribute after the other comes to an object. -/
inductive Reaches : HostObject → List Text → HostObject → Prop where
  | here {object : HostObject} : Reaches object [] object
  | further {object next final : HostObject} {name : Text} {path : List Text}
      (first : object.read name = .ok next) (rest : Reaches next path final) :
      Reaches object (name :: path) final

/-- An attribute on the way cannot be read, or the object at the end not listed. -/
inductive Fails : HostObject → List Text → Exception → Prop where
  | listing {object : HostObject} {e : Exception} (h : object.list = .error e) :
      Fails object [] e
  | reading {object : HostObject} {name : Text} {path : List Text} {e : Exception}
      (h : object.read name = .error e) : Fails object (name :: path) e
  | further {object next : HostObject} {name : Text} {path : List Text}
      {e : Exception} (first : object.read name = .ok next)
      (rest : Fails next path e) : Fails object (name :: path) e

variable {object final : HostObject} {path : List Text} {e : Exception}

theorem Reaches.readPath (h : object.Reaches path final) :
    Evaluator.readPath object path = .ok final := by
  induction h with
  | here => rfl
  | further first _ ih =>
      rw [Evaluator.readPath, first]
      exact ih

theorem Fails.readPath_bind_list (h : object.Fails path e) :
    (Evaluator.readPath object path).bind list = .error e := by
  induction h with
  | listing h => exact h
  | reading h =>
      rw [Evaluator.readPath, h]
      rfl
  | further first _ ih =>
      rw [Evaluator.readPath, first]
      exact ih

theorem reaches_or_fails (object : HostObject) (path : List Text) :
    (∃ final names, object.Reaches path final ∧ final.list = .ok names)
      ∨ ∃ e, object.Fails path e := by
  induction path generalizing object with
  | nil =>
      cases h : object.list with
      | ok names => exact .inl ⟨object, names, .here, h⟩
      | error e => exact .inr ⟨e, .listing h⟩
  | cons name path ih =>
      cases h : object.read name with
      | ok next =>
          rcases ih next with ⟨final, names, hreach, hlist⟩ | ⟨e, hfail⟩
          · exact .inl ⟨final, names, .further h hreach, hlist⟩
          · exact .inr ⟨e, .further h hfail⟩
      | error e => exact .inr ⟨e, .reading h⟩

/-- An object whose attributes can be read, other than those it lacks. -/
def Readable (object : HostObject) : Prop :=
  ∀ name e, object.read name = .error e → e.family = .missingAttribute

end HostObject

/-! ## What a name stands for -/

namespace Evaluator

/-- A name stands for what the session has bound it to, and else for an object that
is always there. -/
inductive Denotes (host : Host) (evaluator : Evaluator) (name : Text) :
    HostObject → Prop where
  | bound {object : HostObject}
      (h : Table.get? evaluator.bindings name = some object) :
      Denotes host evaluator name object
  | builtin {object : HostObject}
      (unbound : Table.get? evaluator.bindings name = none)
      (h : host.builtins.read name = .ok object) :
      Denotes host evaluator name object

/-- A name that stands for nothing. -/
structure Unknown (host : Host) (evaluator : Evaluator) (name : Text) : Prop where
  unbound : Table.get? evaluator.bindings name = none
  missing : ∃ e, host.builtins.read name = .error e

variable {host : Host} {evaluator : Evaluator} {head : Text} {path : List Text}
  {object final : HostObject} {names : List Text} {e x : Exception}

theorem denotes_or_unknown (host : Host) (evaluator : Evaluator) (name : Text) :
    (∃ object, Denotes host evaluator name object) ∨ Unknown host evaluator name := by
  cases h : Table.get? evaluator.bindings name with
  | some object => exact .inl ⟨object, .bound h⟩
  | none =>
      cases hread : host.builtins.read name with
      | ok object => exact .inl ⟨object, .builtin h hread⟩
      | error e => exact .inr ⟨h, e, hread⟩

theorem Denotes.lookup (h : Denotes host evaluator head object) :
    lookup host evaluator head = .ok (some object) := by
  cases h with
  | bound h => rw [Evaluator.lookup, h]
  | builtin unbound h => rw [Evaluator.lookup, unbound, h]

theorem Unknown.lookup (h : Unknown host evaluator head)
    (hbuiltins : host.builtins.Readable) :
    lookup host evaluator head = .ok none := by
  obtain ⟨e, hread⟩ := h.missing
  rw [Evaluator.lookup, h.unbound, hread]
  exact if_pos (hbuiltins head e hread)

/-! ## The candidates behind a name -/

section Attributes

variable (hnames : ∀ name ∈ head :: path, name ∈ Evaluation.identifiers)
include hnames

theorem attributes_of_unknown (hbuiltins : host.builtins.Readable)
    (h : Unknown host evaluator head) :
    attributes host evaluator (Text.join ['.'] (head :: path)) = (.ok [], []) := by
  rw [attributes, Evaluation.pieces_join_identifiers (List.cons_ne_nil _ _) hnames]
  simp only [h.lookup hbuiltins]

theorem attributes_of_reaches (h : Denotes host evaluator head object)
    (hreach : object.Reaches path final) (hlist : final.list = .ok names) :
    attributes host evaluator (Text.join ['.'] (head :: path))
      = (.ok names, []) := by
  have hwalk : (readPath object path).bind HostObject.list = .ok names := by
    rw [hreach.readPath]
    exact hlist
  rw [attributes, Evaluation.pieces_join_identifiers (List.cons_ne_nil _ _) hnames]
  simp only [h.lookup, hwalk]

theorem attributes_of_fails (h : Denotes host evaluator head object)
    (hfail : object.Fails path e) :
    (e.escaping? = none →
      (attributes host evaluator (Text.join ['.'] (head :: path))).1 = .ok [])
    ∧ ∀ x, e.escaping? = some x →
      attributes host evaluator (Text.join ['.'] (head :: path))
        = (.error x, []) := by
  rw [attributes, Evaluation.pieces_join_identifiers (List.cons_ne_nil _ _) hnames]
  simp only [h.lookup, hfail.readPath_bind_list, Notice.ofException_eq]
  constructor
  · intro hnothing
    simp only [hnothing]
  · intro x hescaping
    simp only [hescaping]

end Attributes

variable {text : Text} {wordStart : Int}

theorem candidates_of_none
    (h : ∀ d, ¬ Evaluation.EndsDotted (Text.before text wordStart) d)
    (hlist : host.builtins.list = .ok names) :
    candidates host evaluator text wordStart
      = (.ok (Evaluation.keywords ++ names ++ evaluator.names), []) := by
  rw [candidates, Evaluation.dottedName?_eq_none_iff.mpr h, hlist]

theorem candidates_of_unlisted
    (h : ∀ d, ¬ Evaluation.EndsDotted (Text.before text wordStart) d)
    (hlist : host.builtins.list = .error e) :
    candidates host evaluator text wordStart = (.error e, []) := by
  rw [candidates, Evaluation.dottedName?_eq_none_iff.mpr h, hlist]

theorem candidates_of_longest {d : Text}
    (h : Evaluation.LongestDotted (Text.before text wordStart) d) :
    candidates host evaluator text wordStart = attributes host evaluator d := by
  rw [candidates, Evaluation.dottedName?_eq_some_iff.mpr h]

theorem none_or_longest (s : Text) :
    (∀ d, ¬ Evaluation.EndsDotted s d)
      ∨ ∃ head path, (∀ name ∈ head :: path, name ∈ Evaluation.identifiers)
        ∧ Evaluation.LongestDotted s (Text.join ['.'] (head :: path)) := by
  cases h : Evaluation.dottedName? s with
  | none => exact .inl (Evaluation.dottedName?_eq_none_iff.mp h)
  | some d =>
      have hlongest := Evaluation.dottedName?_eq_some_iff.mp h
      obtain ⟨head, path, hnames, rfl⟩ :=
        Evaluation.mem_dottedNames_iff.mp hlongest.ends.isDotted
      exact .inr ⟨head, path, hnames, hlongest⟩

/-- Where an exception comes out in place of candidates it is from the list of what is
always there, or it comes out of the handler that tells what went wrong on the walk. -/
theorem escaping_of_candidates_eq_error (hbuiltins : host.builtins.Readable)
    (h : (candidates host evaluator text wordStart).1 = .error x) :
    ((∀ d, ¬ Evaluation.EndsDotted (Text.before text wordStart) d)
        ∧ host.builtins.list = .error x)
      ∨ ∃ head path object e, (∀ name ∈ head :: path, name ∈ Evaluation.identifiers)
        ∧ Evaluation.LongestDotted (Text.before text wordStart)
          (Text.join ['.'] (head :: path))
        ∧ Denotes host evaluator head object ∧ object.Fails path e
        ∧ e.escaping? = some x := by
  rcases none_or_longest (Text.before text wordStart) with
    hnone | ⟨head, path, hnames, hlongest⟩
  · cases hlist : host.builtins.list with
    | ok names =>
        rw [candidates_of_none hnone hlist] at h
        cases h
    | error e =>
        rw [candidates_of_unlisted hnone hlist] at h
        obtain rfl := Except.error.inj h
        exact .inl ⟨hnone, rfl⟩
  · rw [candidates_of_longest hlongest] at h
    rcases denotes_or_unknown host evaluator head with ⟨object, hdenotes⟩ | hunknown
    · rcases object.reaches_or_fails path with
        ⟨final, listed, hreach, hlist⟩ | ⟨e, hfail⟩
      · rw [attributes_of_reaches hnames hdenotes hreach hlist] at h
        cases h
      · obtain ⟨hnothing, hcomes⟩ := attributes_of_fails hnames hdenotes hfail
        cases hescaping : e.escaping? with
        | none =>
            rw [hnothing hescaping] at h
            cases h
        | some y =>
            rw [hcomes y hescaping] at h
            obtain rfl := Except.error.inj h
            exact .inr ⟨head, path, object, e, hnames, hlongest, hdenotes, hfail,
              hescaping⟩
    · rw [attributes_of_unknown hnames hbuiltins hunknown] at h
      cases h

end Evaluator

/-- The session that an event leaves behind, over or not. -/
def Session.Step.state : Session.Step → Session.State
  | .goOn state => state
  | .finish state _ => state

theorem Session.evaluator_step_candidates (host : Host) (parser : LineParser)
    (state : Session.State) (text : Text) (wordStart : Int) (typed : Text) :
    (Session.step host parser state (.candidates text wordStart typed)).state.evaluator
      = state.evaluator := by
  rw [step]
  cases state.evaluator.candidates host text wordStart with
  | mk outcome notices => cases outcome <;> rfl

/-- Where no dotted name stands in front of a final dot, the candidates are the words
of the language, then the objects that are always there, then the names of the session
in the order in which they were bound. Else the longest such name settles them, which
is the one that a search from the left comes to first: they are the attributes of the
object that its first identifier stands for, once the other ones have been read from it
in order, and there are none if it stands for nothing or an ordinary exception with a
text comes up on the way. What comes up when that text is read comes out, and so does
what goes wrong when the objects that are always there are listed; nothing else does
but what no ordinary handler catches. A session has the evaluator that it had. -/
theorem candidates_settled_by_longest (host : Host) (evaluator : Evaluator)
    (text : Text) (wordStart : Int) (hbuiltins : host.builtins.Readable) :
    let s := Text.before text wordStart
    (∀ d, Evaluation.LongestDotted s d
      ↔ ∃ start, Evaluation.Matches (s.drop start) d
        ∧ ∀ earlier, earlier < start → ∀ d', ¬ Evaluation.Matches (s.drop earlier) d')
    ∧ ((∀ d, ¬ Evaluation.EndsDotted s d) →
      (∀ listed, host.builtins.list = .ok listed →
        evaluator.candidates host text wordStart
          = (.ok (Evaluation.keywords ++ listed ++ Table.keys evaluator.bindings), []))
      ∧ ∀ e, host.builtins.list = .error e →
        evaluator.candidates host text wordStart = (.error e, []))
    ∧ (∀ head path, (∀ name ∈ head :: path, name ∈ Evaluation.identifiers) →
      Evaluation.LongestDotted s (Text.join ['.'] (head :: path)) →
      (evaluator.Unknown host head →
        evaluator.candidates host text wordStart = (.ok [], []))
      ∧ ∀ object, evaluator.Denotes host head object →
        (∀ final names, object.Reaches path final → final.list = .ok names →
          evaluator.candidates host text wordStart = (.ok names, []))
        ∧ ∀ e, object.Fails path e →
          (e.isOrdinary = true → ∀ said, e.text = .ok said →
            (evaluator.candidates host text wordStart).1 = .ok [])
          ∧ (e.isOrdinary = true → ∀ fault, e.text = .error fault →
            evaluator.candidates host text wordStart = (.error fault, []))
          ∧ (e.isOrdinary = false →
            evaluator.candidates host text wordStart = (.error e, [])))
    ∧ ((∀ d, ¬ Evaluation.EndsDotted s d)
      ∨ ∃ head path, (∀ name ∈ head :: path, name ∈ Evaluation.identifiers)
        ∧ Evaluation.LongestDotted s (Text.join ['.'] (head :: path)))
    ∧ (∀ x, (evaluator.candidates host text wordStart).1 = .error x →
      ((∀ d, ¬ Evaluation.EndsDotted s d) ∧ host.builtins.list = .error x)
      ∨ ∃ head path object e, (∀ name ∈ head :: path, name ∈ Evaluation.identifiers)
        ∧ Evaluation.LongestDotted s (Text.join ['.'] (head :: path))
        ∧ evaluator.Denotes host head object ∧ object.Fails path e
        ∧ ((e.isOrdinary = true ∧ e.text = .error x)
          ∨ (e.isOrdinary = false ∧ e = x)))
    ∧ ∀ (parser : LineParser) (state : Session.State) typed,
      state.evaluator = evaluator →
      (Session.step host parser state
        (.candidates text wordStart typed)).state.evaluator = evaluator := by
  intro s
  refine ⟨fun d => Evaluation.longestDotted_iff_first, fun hnone => ⟨?_, ?_⟩, ?_,
    Evaluator.none_or_longest _, ?_, ?_⟩
  · exact fun listed => Evaluator.candidates_of_none hnone
  · exact fun e => Evaluator.candidates_of_unlisted hnone
  · intro head path hnames hlongest
    rw [Evaluator.candidates_of_longest hlongest]
    refine ⟨Evaluator.attributes_of_unknown hnames hbuiltins, ?_⟩
    intro object hdenotes
    refine ⟨?_, fun e hfail => ?_⟩
    · intro final names hreach hlist
      exact Evaluator.attributes_of_reaches hnames hdenotes hreach hlist
    · obtain ⟨hnothing, hcomes⟩ := Evaluator.attributes_of_fails hnames hdenotes hfail
      refine ⟨fun hordinary said hsaid => ?_, fun hordinary fault hfault => ?_,
        fun hpasses => hcomes e (Exception.escaping?_of_not_ordinary hpasses)⟩
      · exact hnothing (Exception.escaping?_eq_none_iff.mpr ⟨hordinary, said, hsaid⟩)
      · exact hcomes fault
          (Exception.escaping?_eq_some_iff.mpr (.inl ⟨hordinary, hfault⟩))
  · intro x h
    simp only [← Exception.escaping?_eq_some_iff]
    exact Evaluator.escaping_of_candidates_eq_error hbuiltins h
  · intro parser state typed hstate
    rw [Session.evaluator_step_candidates, hstate]

/-- Behind a line that ends in a dot and a line feed the attributes come in order;
a missing attribute and a name that stands for nothing give none, and a name with no
dot behind it gives all there is. -/
theorem candidates_settled_by_longest_nested :
    let inner : HostObject := { attributes := [(['d'], {}), (['c'], {})] }
    let outer : HostObject := { attributes := [(['b'], inner)] }
    let host : Host :=
      { compile := fun _ => .ok {}, builtins := { attributes := [(['l'], {})] }
        moduleName := {} }
    let evaluator : Evaluator :=
      { reporter := { renderer := {} }, bindings := [(['a'], outer)] }
    let nested := Text.ofString "1+a.b.\n"
    let missing := Text.ofString "a.z."
    let unknown := Text.ofString "z."
    host.builtins.Readable
      ∧ Evaluation.LongestDotted (Text.before nested 7) (Text.ofString "a.b")
      ∧ evaluator.candidates host nested 7 = (.ok [['c'], ['d']], [])
      ∧ (evaluator.candidates host missing 4).1 = .ok []
      ∧ evaluator.candidates host unknown 2 = (.ok [], [])
      ∧ evaluator.candidates host nested 5
        = (.ok (Evaluation.keywords ++ [['l']] ++ [['a']]), []) := by
  intro inner outer host evaluator nested missing unknown
  have hbuiltins : host.builtins.Readable := by
    intro name e h
    by_cases hname : name = ['l']
    · subst hname
      cases h
    · have hlacks : host.builtins.read name
          = .error { name := Text.ofString "AttributeError"
                     argument := some (host.builtins.lacks name)
                     family := .missingAttribute } := by
        rw [HostObject.read, Table.get?, if_neg (Ne.symm hname), Table.get?]
      rw [hlacks] at h
      rw [← Except.error.inj h]
  have hletter : ∀ c, Text.isNameStart c = true → [c] ∈ Evaluation.identifiers :=
    fun c hc => Evaluation.cons_mem_chars_mul.mpr ⟨hc, Language.nil_mem_kstar _⟩
  have hnames : ∀ c, Text.isNameStart c = true →
      ∀ name ∈ [['a'], [c]], name ∈ Evaluation.identifiers := fun c hc =>
    List.forall_mem_cons.mpr
      ⟨hletter 'a' rfl, List.forall_mem_singleton.mpr (hletter c hc)⟩
  have houter : evaluator.Denotes host ['a'] outer := .bound rfl
  have hlongest : Evaluation.LongestDotted (Text.before nested 7)
      (Text.join ['.'] [['a'], ['b']]) := Evaluation.dottedName?_eq_some_iff.mp rfl
  have hmissing : Evaluation.LongestDotted (Text.before missing 4)
      (Text.join ['.'] [['a'], ['z']]) := Evaluation.dottedName?_eq_some_iff.mp rfl
  have hunknown : Evaluation.LongestDotted (Text.before unknown 2)
      (Text.join ['.'] [['z']]) := Evaluation.dottedName?_eq_some_iff.mp rfl
  have hnone : ∀ d, ¬ Evaluation.EndsDotted (Text.before nested 5) d :=
    Evaluation.dottedName?_eq_none_iff.mp rfl
  have hsettled := fun text wordStart =>
    candidates_settled_by_longest host evaluator text wordStart hbuiltins
  obtain ⟨hreach, -⟩ :=
    ((hsettled nested 7).2.2.1 ['a'] [['b']] (hnames 'b' rfl) hlongest).2 outer houter
  obtain ⟨-, hfail⟩ :=
    ((hsettled missing 4).2.2.1 ['a'] [['z']] (hnames 'z' rfl) hmissing).2 outer houter
  obtain ⟨hnothing, -⟩ := (hsettled unknown 2).2.2.1 ['z'] []
    (List.forall_mem_singleton.mpr (hletter 'z' rfl)) hunknown
  obtain ⟨hall, -⟩ := (hsettled nested 5).2.1 hnone
  exact ⟨hbuiltins, hlongest, hreach inner _ (.further rfl .here) rfl,
    (hfail _ (.reading rfl)).1 rfl _ rfl, hnothing ⟨rfl, _, rfl⟩, hall _ rfl⟩

/-- An attribute is read and an ordinary exception comes up whose text cannot be read;
and the objects that are always there cannot be listed. -/
theorem candidates_let_exceptions_out :
    let fault : Exception := { name := Text.ofString "RuntimeError" }
    let unreadable : Exception :=
      { name := Text.ofString "Odd", textFaults := [fault.toRaised] }
    let bad : Exception :=
      { name := Text.ofString "ValueError", argument := some ['x'], family := .value }
    let object : HostObject :=
      { attributes := [(['b'], { readFault := some unreadable })] }
    let host (builtins : HostObject) : Host :=
      { compile := fun _ => .ok {}, builtins, moduleName := {} }
    let unlisted : HostObject := { listFault := some bad }
    let evaluator : Evaluator :=
      { reporter := { renderer := {} }, bindings := [(['a'], object)] }
    (unreadable.isOrdinary = true ∧ bad.isOrdinary = true ∧ unlisted.Readable)
      ∧ evaluator.candidates (host {}) (Text.ofString "a.b.") 4 = (.error fault, [])
      ∧ evaluator.candidates (host unlisted) [] 0 = (.error bad, []) := by
  intro fault unreadable bad object host unlisted evaluator
  refine ⟨⟨rfl, rfl, fun name e h => ?_⟩, by decide +kernel, by decide +kernel⟩
  rw [← Except.error.inj h]

end DiagnosticConsole
