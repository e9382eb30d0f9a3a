import NominalCheck.Session.Action

/-!
# Sessions

A session carries what later steps can see: the registry, the classifier calls made so far, the
environment, whether the error channel is a terminal, and the loggers. A step first brings its
environment and terminal, then acts; a step that faults changes nothing else but the history of
calls. Settings are built by whatever library is given.

## Main definitions

* `Session` — the state.
* `Step` — an action with what comes along.
* `Outcome` — the answer of a step, its calls, its events and records, and the lines it writes.
* `Session.step`, `Session.run` — one step, and several.

## References

`Session.gate` is the reference's `configure_from_env` without settings, and `Session.obey` what it
does with settings.
-/

namespace NominalCheck

/-- The state of a session. -/
structure Session where
  /-- Who classifies. -/
  registry : Registry := {}
  /-- The classifier calls made so far. -/
  history : List Handle := []
  /-- The environment. -/
  environment : Environment := []
  /-- Whether the error channel is a terminal. -/
  terminal : Bool := false
  /-- The loggers. -/
  logging : Logging := {}
  deriving Repr, Inhabited

/-- A step of a session. -/
structure Step where
  /-- What is done. -/
  action : Action
  /-- The variables that replace the library's own, if they are replaced. -/
  environment : Option (List (String × String)) := none
  /-- Whether the error channel is a terminal from now on, if that is told. -/
  terminal : Option Bool := none
  /-- Whether events are collected in the outcome instead of being written. -/
  traced : Bool := false
  deriving Repr, Inhabited

/-- The outcome of a step. -/
structure Outcome where
  /-- The reply or the fault. -/
  answer : Except Fault Reply
  /-- The classifiers called, in order. -/
  calls : List Handle
  /-- The events, if they are collected. -/
  trace : Option (List Event)
  /-- The events of which a record is made: all where they are collected, since then everything
  passes, else those that the loggers let pass. -/
  emitted : List Event
  /-- The lines written. -/
  lines : List Line

namespace Session

variable [SettingsLibrary]

/-- The session after a step has brought its environment and terminal. -/
def enter (s : Session) (step : Step) : Session :=
  { s with
    environment := (step.environment.map s.environment.replaceOwn).getD s.environment
    terminal := step.terminal.getD s.terminal }

/-- The classifier of a target. -/
def classifierOf (s : Session) : Target → Except Fault Classifier
  | .ambient => .ok s.registry.ambient
  | .stored id => s.registry.fetch id
  | .fresh c => vetConfig c

/-- The checker that holds the given classifier in this session. -/
def checkerOf (s : Session) (c : Classifier) : Checker :=
  { classifier := c, ambient := s.registry.ambient, history := s.history }

/-- The answer of a target to a question. -/
def ask (s : Session) (target : Target) (q : Question) : Run Reply := do
  let c ← Run.ofExcept (s.classifierOf target)
  q.run (s.checkerOf c)

/-- What settings do to the loggers: nothing, unless they switch the trace on. -/
def obey (s : Session) (settings : Settings) : Bool × Logging :=
  if settings.debug then (true, s.logging.configure true settings.logJson s.terminal)
  else (false, s.logging)

/-- The environment gate: what the environment's settings do to the loggers. Settings that cannot
be read leave the trace as it is, and one event tells so to the loggers. -/
def gate (s : Session) : Bool × Logging × List Event :=
  match Settings.resolve s.environment [] with
  | .error report => (false, s.logging, [.ignoredSettings report])
  | .ok settings => ((s.obey settings).1, (s.obey settings).2, [])

/-- The reply of a set-up operation, the loggers after it, and its events. -/
def setUp (s : Session) : Setup → Except Fault Reply × Logging × List Event
  | .settings keywords assignment =>
    match Settings.resolve s.environment keywords, assignment with
    | .error report, _ => (.error (.invalid report), s.logging, [])
    | .ok settings, none => (.ok (.settings settings), s.logging, [])
    | .ok settings, some (field, v) => match settings.assign field v with
      | .error report => (.error (.invalid report), s.logging, [])
      | .ok settings => (.ok (.settings settings), s.logging, [])
  | .compareSettings a b =>
    match Settings.resolve s.environment a, Settings.resolve s.environment b with
    | .error report, _ => (.error (.invalid report), s.logging, [])
    | .ok _, .error report => (.error (.invalid report), s.logging, [])
    | .ok x, .ok y => (.ok (.truth (x == y)), s.logging, [])
  | .configure verbose json =>
    let logging := s.logging.configure verbose json s.terminal
    (.ok (.logging logging), logging, [])
  | .gate (some keywords) =>
    match Settings.resolve s.environment keywords with
    | .error report => (.error (.invalid report), s.logging, [])
    | .ok settings =>
      let (enabled, logging) := s.obey settings
      (.ok (.gated enabled logging), logging, [])
  | .gate none =>
    let (enabled, logging, events) := s.gate
    (.ok (.gated enabled logging), logging, events)
  | .load =>
    let (_, logging, events) := s.gate
    (.ok (.loaded logging), logging, events)
  | .showLogging => (.ok (.logging s.logging), s.logging, [])
  | .idle => (.ok .done, s.logging, [])

/-- The reply to an edit: the classifier it answers, if any. -/
def editReply : Option Classifier → Reply
  | some c => .classifier c
  | none => .done

/-- What an action answers, and the session after it. -/
def act (s : Session) : Action → Run Reply × Session
  | .inquire i => (.ofExcept i.answer, s)
  | .ask target q =>
    let run := s.ask target q
    (run, { s with history := s.history ++ run.calls })
  | .edit e =>
    match s.registry.edit e with
    | .error f => (.fail f, s)
    | .ok (c, registry) => (pure (editReply c), { s with registry })
  | .setUp u =>
    let (answer, logging, events) := s.setUp u
    ({ outcome := answer, events }, { s with logging })

/-- The outcome of a step, and the session after it. Events are written as the loggers stand before
the action. -/
def step (s : Session) (step : Step) : Outcome × Session :=
  let s := s.enter step
  let (run, next) := s.act step.action
  ({ answer := run.outcome
     calls := run.calls
     trace := if step.traced then some run.events else none
     emitted := if step.traced then run.events else run.events.filter s.logging.lets
     lines := if step.traced then [] else run.events.flatMap s.logging.lines },
    next)

/-- The outcomes of several steps, and the session after them. -/
def run (s : Session) : List Step → List Outcome × Session
  | [] => ([], s)
  | step :: steps =>
    let (outcome, next) := s.step step
    let (outcomes, last) := run next steps
    (outcome :: outcomes, last)

@[simp] theorem run_nil (s : Session) : s.run [] = ([], s) := rfl

@[simp] theorem run_cons (s : Session) (step : Step) (steps : List Step) :
    s.run (step :: steps) =
      ((s.step step).1 :: ((s.step step).2.run steps).1, ((s.step step).2.run steps).2) := rfl

/-- A run of two parts is the run of the first, and then of the second from where that ends. -/
theorem run_append (s : Session) (xs ys : List Step) :
    s.run (xs ++ ys) = ((s.run xs).1 ++ ((s.run xs).2.run ys).1, ((s.run xs).2.run ys).2) := by
  induction xs generalizing s with
  | nil => simp
  | cons x xs ih => simp [ih]

end Session

end NominalCheck
