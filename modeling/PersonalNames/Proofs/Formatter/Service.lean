import PersonalNames.Formatter

/-! # What a formatter answers

A formatter keeps the patterns that it has compiled.  A `Service` keeps nothing but
a configuration and the settings in force, and looks up and compiles the pattern of
each call afresh.

`answers_eq_service_answers` says that no calls tell the two apart, that a failing
call leaves no trace in later answers, and that an unknown identifier is as good as
none.  What carries it is that a formatter is *sound*: it keeps a pattern only under
the text that compiles to it (`IsSound`).  Each function of a sound formatter gives
what the service gives, and leaves a sound formatter of the same service behind
(`Meets`).
-/
namespace PersonalNames

/-! ## Calls -/

/-- A call to a formatter. -/
inductive Call where
  | format (name : PersonName) (id : Option String)
  | formatList (names : List PersonName) (id listId : Option String)
  | compile (source : String)
  | setting (key : String)
  | set (key value : String)

/-- What a call gives that does not fail. -/
inductive Answer where
  | markup (m : Markup)
  | pattern (p : Pattern)
  | setting (value : Option String)
  | done

/-- The answers to calls one after the other, where each call has an answer and
leaves a state to the next one. -/
def answersFrom {σ : Type} (answer : σ → Call → Except Failure Answer) (next : σ → Call → σ) :
    σ → List Call → List (Except Failure Answer)
  | _, [] => []
  | s, call :: calls => answer s call :: answersFrom answer next (next s call) calls

namespace Formatter

/-- The answer to a call. -/
def answer (f : Formatter) : Call → Except Failure Answer
  | .format name id => (f.format name id).1.map .markup
  | .formatList names id listId => (f.formatList names id listId).1.map .markup
  | .compile source => (f.compile source).1.map .pattern
  | .setting key => .ok (.setting (f.setting? key))
  | .set key value => (f.set key value).map fun _ => .done

/-- The formatter behind a call. -/
def next (f : Formatter) : Call → Formatter
  | .format name id => (f.format name id).2
  | .formatList names id listId => (f.formatList names id listId).2
  | .compile source => (f.compile source).2
  | .setting _ => f
  | .set key value => (f.set key value).toOption.getD f

/-- The answers to calls one after the other. -/
def answers : Formatter → List Call → List (Except Failure Answer) :=
  answersFrom answer next

/-- The formatter behind calls one after the other. -/
def after (f : Formatter) (calls : List Call) : Formatter :=
  calls.foldl next f

end Formatter

/-! ## The service without compiled patterns -/

/-- A configuration and the settings in force. -/
structure Service where
  configuration : Configuration
  settings : Settings

namespace Service

/-- The pattern of an identifier, looked up and compiled. -/
def patternOf (s : Service) (id : Option String) : Except Failure Pattern :=
  match s.configuration.resolveName (id.getD defaultId) with
  | .ok (_, format) => (Pattern.compile format.pattern).mapError .pattern
  | .error missing => .error (.configuration (.missing missing))

/-- The list style of an identifier. -/
def styleOf (s : Service) (listId : Option String) : Except Failure ListStyle :=
  match s.configuration.resolveList (listId.getD defaultId) with
  | .ok (_, list) => .ok list.style
  | .error missing => .error (.configuration (.missing missing))

/-- A name in a format. -/
def format (s : Service) (name : PersonName) (id : Option String) : Except Failure Markup :=
  (s.patternOf id).map fun pattern => pattern.format name s.settings

/-- A list of names in a format and a list style; the format is looked up first. -/
def formatList (s : Service) (names : List PersonName) (id listId : Option String) :
    Except Failure Markup := do
  let pattern ← s.patternOf id
  let style ← s.styleOf listId
  return NameList.format pattern names style s.settings s.configuration.terms

/-- The answer to a call. -/
def answer (s : Service) : Call → Except Failure Answer
  | .format name id => (s.format name id).map .markup
  | .formatList names id listId => (s.formatList names id listId).map .markup
  | .compile source => ((Pattern.compile source).mapError .pattern).map .pattern
  | .setting key => .ok (.setting (s.settings.get? key))
  | .set key value =>
    if (s.settings.set? key value).isSome then .ok .done else .error (.setting key value)

/-- The service behind a call: only setting something changes it. -/
def next (s : Service) : Call → Service
  | .set key value => { s with settings := (s.settings.set? key value).getD s.settings }
  | _ => s

/-- The answers to calls one after the other. -/
def answers : Service → List Call → List (Except Failure Answer) :=
  answersFrom answer next

/-- The service of a configuration. -/
def ofConfiguration (c : Configuration) : Service :=
  ⟨c, c.effectiveSettings⟩

theorem configuration_next (s : Service) (call : Call) :
    (s.next call).configuration = s.configuration := by
  cases call <;> rfl

/-- Calls that fail leave the service as it is. -/
theorem next_of_answer_error {s : Service} {call : Call} {e : Failure}
    (h : s.answer call = .error e) : s.next call = s := by
  cases call with
  | set key value =>
    cases hset : s.settings.set? key value with
    | some settings => simp [answer, hset] at h
    | none => simp [next, hset]
  | format name id => rfl
  | formatList names id listId => rfl
  | compile source => rfl
  | setting key => rfl

end Service

/-! ## Sound formatters -/

namespace Formatter

variable {α : Type} {f : Formatter}

/-- What a formatter is without its compiled patterns. -/
def service (f : Formatter) : Service :=
  ⟨f.configuration, f.settings⟩

/-- Every text under which a pattern is kept compiles to it. -/
def IsSound (f : Formatter) : Prop :=
  ∀ entry ∈ f.compiled.entries, Pattern.compile entry.1 = .ok entry.2

theorem isSound_ofConfiguration (c : Configuration) : (ofConfiguration c).IsSound := by
  intro entry h
  cases h

/-- A result with the formatter behind it: the result is the expected one, and the
formatter is sound and stands for the service. -/
structure Meets (s : Service) (expected : Except Failure α)
    (result : Except Failure α × Formatter) : Prop where
  answer : result.1 = expected
  service : result.2.service = s
  sound : result.2.IsSound

theorem compile_meets (h : f.IsSound) (source : String) :
    Meets f.service ((Pattern.compile source).mapError .pattern) (f.compile source) := by
  unfold compile
  split
  · next pattern hkept =>
    have hcompile : Pattern.compile source = .ok pattern := h _ (Catalog.mem_of_find? hkept)
    exact ⟨by rw [hcompile]; rfl, rfl, h⟩
  · split
    · next pattern hcompile =>
      refine ⟨by rw [hcompile]; rfl, rfl, ?_⟩
      intro entry hentry
      rcases Catalog.mem_of_mem_put hentry with rfl | hentry
      · exact hcompile
      · exact h entry hentry
    · next e hcompile => exact ⟨by rw [hcompile]; rfl, rfl, h⟩

theorem patternOf_meets (h : f.IsSound) (id : Option String) :
    Meets f.service (f.service.patternOf id) (f.patternOf id) := by
  unfold patternOf Service.patternOf service
  cases f.configuration.resolveName (id.getD defaultId) with
  | error missing => exact ⟨rfl, rfl, h⟩
  | ok found => exact compile_meets h found.2.pattern

theorem format_meets (h : f.IsSound) (name : PersonName) (id : Option String) :
    Meets f.service (f.service.format name id) (f.format name id) := by
  obtain ⟨hanswer, hservice, hsound⟩ := patternOf_meets h id
  unfold format Service.format
  rw [← hanswer, ← hservice]
  cases hpattern : f.patternOf id with
  | mk result f' =>
    rw [hpattern] at hsound
    cases result with
    | ok pattern => exact ⟨rfl, rfl, hsound⟩
    | error e => exact ⟨rfl, rfl, hsound⟩

theorem formatList_meets (h : f.IsSound) (names : List PersonName) (id listId : Option String) :
    Meets f.service (f.service.formatList names id listId) (f.formatList names id listId) := by
  obtain ⟨hanswer, hservice, hsound⟩ := patternOf_meets h id
  unfold formatList Service.formatList Service.styleOf
  rw [← hanswer, ← hservice]
  cases hpattern : f.patternOf id with
  | mk result f' =>
    rw [hpattern] at hsound
    cases result with
    | error e => exact ⟨rfl, rfl, hsound⟩
    | ok pattern =>
      -- the pattern stays compiled even where the list style is missing
      dsimp only [service]
      cases f'.configuration.resolveList (listId.getD defaultId) with
      | error missing => exact ⟨rfl, rfl, hsound⟩
      | ok found => exact ⟨rfl, rfl, hsound⟩

/-- **One call**: a sound formatter answers what the service answers, and stays a
sound formatter of the service. -/
theorem call_meets (h : f.IsSound) (call : Call) :
    f.answer call = f.service.answer call ∧ (f.next call).service = f.service.next call ∧
      (f.next call).IsSound := by
  cases call with
  | format name id =>
    obtain ⟨hanswer, hservice, hsound⟩ := format_meets h name id
    exact ⟨congrArg (Except.map Answer.markup) hanswer, hservice, hsound⟩
  | formatList names id listId =>
    obtain ⟨hanswer, hservice, hsound⟩ := formatList_meets h names id listId
    exact ⟨congrArg (Except.map Answer.markup) hanswer, hservice, hsound⟩
  | compile source =>
    obtain ⟨hanswer, hservice, hsound⟩ := compile_meets h source
    exact ⟨congrArg (Except.map Answer.pattern) hanswer, hservice, hsound⟩
  | setting key => exact ⟨rfl, rfl, h⟩
  | set key value =>
    cases hset : f.settings.set? key value with
    | some settings =>
      have hnext : f.next (.set key value) = { f with settings } := by
        simp [next, set, hset, Except.toOption]
      rw [hnext]
      exact ⟨by simp [answer, set, Service.answer, service, hset, Except.map],
        by simp [Service.next, service, hset], h⟩
    | none =>
      have hnext : f.next (.set key value) = f := by simp [next, set, hset, Except.toOption]
      rw [hnext]
      exact ⟨by simp [answer, set, Service.answer, service, hset, Except.map],
        by simp [Service.next, service, hset], h⟩

/-- **All calls**: the answers depend only on the service that a sound formatter
stands for. -/
theorem answers_eq (h : f.IsSound) (calls : List Call) :
    f.answers calls = f.service.answers calls := by
  unfold answers Service.answers
  induction calls generalizing f with
  | nil => rfl
  | cons call calls ih =>
    obtain ⟨hanswer, hservice, hsound⟩ := call_meets h call
    rw [answersFrom, answersFrom, hanswer, ih hsound, hservice]

theorem IsSound.after (h : f.IsSound) (calls : List Call) : (f.after calls).IsSound := by
  unfold Formatter.after
  induction calls generalizing f with
  | nil => exact h
  | cons call calls ih => exact ih (call_meets h call).2.2

/-- Calls never change the configuration. -/
theorem IsSound.configuration_after (h : f.IsSound) (calls : List Call) :
    (f.after calls).configuration = f.configuration := by
  unfold Formatter.after
  induction calls generalizing f with
  | nil => rfl
  | cons call calls ih =>
    obtain ⟨_, hservice, hsound⟩ := call_meets h call
    have hnext : (f.next call).configuration = (f.service.next call).configuration :=
      congrArg Service.configuration hservice
    rw [List.foldl_cons, ih hsound, hnext, Service.configuration_next]
    rfl

/-- A failing call leaves configuration, settings and all later answers as they
are. -/
theorem next_of_answer_error (h : f.IsSound) {call : Call} {e : Failure}
    (hfails : f.answer call = .error e) :
    (f.next call).configuration = f.configuration ∧ (f.next call).settings = f.settings ∧
      ∀ later, (f.next call).answers later = f.answers later := by
  obtain ⟨hanswer, hservice, hsound⟩ := call_meets h call
  rw [hanswer] at hfails
  rw [Service.next_of_answer_error hfails] at hservice
  refine ⟨congrArg Service.configuration hservice, congrArg Service.settings hservice, ?_⟩
  intro later
  rw [answers_eq hsound, answers_eq h, hservice]

end Formatter

/-! ## Identifiers that are not configured -/

namespace Configuration

variable {α : Type}

/-- An unknown identifier stands for the default one, if there is one. -/
theorem resolve_of_unknown {kind : FormatKind} {formats : Catalog α} {id : String}
    (h : formats.get? id = none) (hdefault : formats.get? defaultId ≠ none) :
    resolve kind formats id = resolve kind formats defaultId := by
  obtain ⟨format, hformat⟩ := Option.ne_none_iff_exists'.mp hdefault
  simp [resolve, h, hformat]

end Configuration

namespace Service

variable {s : Service} {id : String}

theorem patternOf_of_unknown (h : s.configuration.nameFormats.get? id = none)
    (hdefault : s.configuration.nameFormats.get? defaultId ≠ none) :
    s.patternOf (some id) = s.patternOf none := by
  have hresolve : s.configuration.resolveName id = s.configuration.resolveName defaultId :=
    Configuration.resolve_of_unknown h hdefault
  unfold patternOf
  rw [Option.getD_some, Option.getD_none, hresolve]

theorem styleOf_of_unknown (h : s.configuration.listFormats.get? id = none)
    (hdefault : s.configuration.listFormats.get? defaultId ≠ none) :
    s.styleOf (some id) = s.styleOf none := by
  have hresolve : s.configuration.resolveList id = s.configuration.resolveList defaultId :=
    Configuration.resolve_of_unknown h hdefault
  unfold styleOf
  rw [Option.getD_some, Option.getD_none, hresolve]

/-- The identifier of a format that is not configured is as good as none. -/
theorem answer_of_unknown (h : s.configuration.nameFormats.get? id = none)
    (hdefault : s.configuration.nameFormats.get? defaultId ≠ none) :
    (∀ name, s.answer (.format name (some id)) = s.answer (.format name none)) ∧
      ∀ names listId,
        s.answer (.formatList names (some id) listId) =
          s.answer (.formatList names none listId) := by
  have hpattern := patternOf_of_unknown h hdefault
  constructor
  · intro name
    rw [answer, answer, format, format, hpattern]
  · intro names listId
    rw [answer, answer, formatList, formatList, hpattern]

/-- The identifier of a list style that is not configured is as good as none. -/
theorem answer_of_unknown_list (h : s.configuration.listFormats.get? id = none)
    (hdefault : s.configuration.listFormats.get? defaultId ≠ none) (names : List PersonName)
    (nameId : Option String) :
    s.answer (.formatList names nameId (some id)) = s.answer (.formatList names nameId none) := by
  rw [answer, answer, formatList, formatList, styleOf_of_unknown h hdefault]

end Service

namespace Formatter

/-- A formatter that calls lead to from a configuration. -/
def Reachable (c : Configuration) (f : Formatter) : Prop :=
  ∃ calls, (ofConfiguration c).after calls = f

theorem Reachable.isSound {c : Configuration} {f : Formatter} (h : Reachable c f) : f.IsSound := by
  obtain ⟨calls, rfl⟩ := h
  exact (isSound_ofConfiguration c).after calls

theorem Reachable.configuration {c : Configuration} {f : Formatter} (h : Reachable c f) :
    f.configuration = c := by
  obtain ⟨calls, rfl⟩ := h
  exact (isSound_ofConfiguration c).configuration_after calls

/-- **A formatter answers as if it kept no patterns.**  From a configuration on, all
calls get the answers of the service without compiled patterns.  In every formatter
that calls lead to, each kept pattern is what its text compiles to; a call that fails
leaves configuration, settings and all later answers as they are; and an identifier
that is not configured gets the answer of none, if there is a default. -/
theorem answers_eq_service_answers (c : Configuration) :
    (∀ calls, (ofConfiguration c).answers calls = (Service.ofConfiguration c).answers calls) ∧
    ∀ f, Reachable c f →
      (∀ entry ∈ f.compiled.entries, Pattern.compile entry.1 = .ok entry.2) ∧
      (∀ call e, f.answer call = .error e → (f.next call).configuration = f.configuration ∧
        (f.next call).settings = f.settings ∧
        ∀ later, (f.next call).answers later = f.answers later) ∧
      (c.nameFormats.get? defaultId ≠ none → ∀ id, c.nameFormats.get? id = none →
        (∀ name, f.answer (.format name (some id)) = f.answer (.format name none)) ∧
        ∀ names listId, f.answer (.formatList names (some id) listId) =
          f.answer (.formatList names none listId)) ∧
      (c.listFormats.get? defaultId ≠ none → ∀ listId, c.listFormats.get? listId = none →
        ∀ names id, f.answer (.formatList names id (some listId)) =
          f.answer (.formatList names id none)) := by
  refine ⟨answers_eq (isSound_ofConfiguration c), ?_⟩
  intro f hreachable
  have hsound : f.IsSound := hreachable.isSound
  have hanswer (call : Call) : f.answer call = f.service.answer call := (call_meets hsound call).1
  refine ⟨hsound, fun call e => next_of_answer_error hsound, ?_, ?_⟩
  · intro hdefault id hunknown
    rw [← hreachable.configuration] at hdefault hunknown
    obtain ⟨hname, hnames⟩ := Service.answer_of_unknown (s := f.service) hunknown hdefault
    constructor
    · intro name
      rw [hanswer, hanswer, hname]
    · intro names listId
      rw [hanswer, hanswer, hnames]
  · intro hdefault listId hunknown names id
    rw [← hreachable.configuration] at hdefault hunknown
    rw [hanswer, hanswer,
      Service.answer_of_unknown_list (s := f.service) hunknown hdefault]

/-- A list in a style that is not there fails and yet leaves its pattern compiled;
later answers do not show it. -/
theorem answers_eq_service_answers_missing_style :
    let c : Configuration := { nameFormats := .ofList [("default", { pattern := "f" })] }
    let f := ofConfiguration c
    (f.next (.formatList [] none none)).compiled.keys = ["f"] ∧
      f.answer (.formatList [] none none) =
        .error (.configuration (.missing ⟨.list, "default"⟩)) ∧
      ∀ later, (f.next (.formatList [] none none)).answers later = f.answers later := by
  refine ⟨rfl, rfl, ?_⟩
  exact ((answers_eq_service_answers _).2 _ ⟨[], rfl⟩).2.1 (.formatList [] none none) _ rfl |>.2.2

end Formatter
end PersonalNames
