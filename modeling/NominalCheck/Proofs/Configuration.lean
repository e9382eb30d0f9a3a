import NominalCheck.Proofs.Gate

/-!
# How the loggers are configured

Three operations write the package's logger: one that configures it, the environment gate, and the
loading of the library, which runs the gate.  The last two do so only when their settings switch
the trace on.  Each that does selects a level and a format, and puts them in the place of all that
was there.  So the logger is as at the start, or it is what the latest selection makes of it.

## Main definitions

* `Selection` — a level and a format.
* `Session.selection? s a` — what the action selects, if it selects anything.
* `Session.selections s steps` — what is selected in a run, in order.
* `Logger.IsUntouched`, `Logger.IsConfigured` — the two shapes of the package's logger.

## Main results

* `Session.logging_act` — what an action makes of the loggers.
* `Session.logging_run` — what a run makes of them.
* `Session.latest_selection_decides` — **the package's logger is that of the latest selection.**
-/

namespace NominalCheck

/-! ### Selections -/

/-- What is selected for the package's logger: whether the steps of a check are written, and how. -/
structure Selection where
  /-- Whether the steps of a check are written. -/
  verbose : Bool
  /-- How it is written. -/
  format : Format
  deriving DecidableEq, Repr

/-- The logger with a selection: one handler, and nothing goes on to the root. -/
def Selection.logger (c : Selection) : Logger where
  level := (if c.verbose then Level.debug else Level.warning).severity
  handlers := [c.format]
  propagate := false

/-- What settings select: nothing, unless they switch the trace on. -/
def Settings.selection? (settings : Settings) (terminal : Bool) : Option Selection :=
  if settings.debug then some ⟨true, Logging.formatFor settings.logJson terminal⟩ else none

/-- What an action selects, if it selects anything. -/
def Session.selection? [SettingsLibrary] (s : Session) : Action → Option Selection
  | .setUp (.configure verbose json) => some ⟨verbose, Logging.formatFor json s.terminal⟩
  | .setUp (.gate keywords) =>
    (Settings.resolve s.environment (keywords.getD [])).toOption.bind (·.selection? s.terminal)
  | .setUp .load => (Settings.resolve s.environment []).toOption.bind (·.selection? s.terminal)
  | _ => none

/-- What is selected in a run, in order. -/
def Session.selections [SettingsLibrary] (s : Session) : List Step → List Selection
  | [] => []
  | step :: steps =>
    ((s.enter step).selection? step.action).toList ++ (s.step step).2.selections steps

/-- The actions that may write the package's logger. -/
def Action.IsConfiguring : Action → Prop
  | .setUp (.configure _ _) => True
  | .setUp (.gate _) => True
  | .setUp .load => True
  | _ => False

/-- The logger is as at the start. -/
def Logger.IsUntouched (l : Logger) : Prop :=
  l.level = 0 ∧ l.handlers = [] ∧ l.propagate = true

/-- The logger has one handler, a level of its own, and keeps its events. -/
def Logger.IsConfigured (l : Logger) : Prop :=
  (∃ format, l.handlers = [format]) ∧ l.propagate = false ∧
    (l.level = Level.debug.severity ∨ l.level = Level.warning.severity)

theorem Selection.isConfigured_logger (c : Selection) : c.logger.IsConfigured := by
  refine ⟨⟨c.format, rfl⟩, rfl, ?_⟩
  rw [logger]
  cases c.verbose
  · exact Or.inr rfl
  · exact Or.inl rfl

theorem Logger.IsUntouched.not_isConfigured {l : Logger} (h : l.IsUntouched) :
    ¬ l.IsConfigured := by
  rintro ⟨⟨format, hone⟩, -, -⟩
  rw [h.2.1] at hone
  cases hone

/-- The loggers after a selection, if there is one. -/
def Logging.select (l : Logging) (c : Option Selection) : Logging :=
  { l with package := (c.map Selection.logger).getD l.package }

@[simp] theorem Logging.select_none (l : Logging) : l.select none = l := rfl

@[simp] theorem Logging.select_select (l : Logging) (c c' : Option Selection) :
    (l.select c).select c' = l.select (c'.or c) := by
  cases c' <;> rfl

namespace Session

variable {s : Session}

/-! ### One action -/

theorem obey_eq_select (s : Session) (settings : Settings) :
    (s.obey settings).2 = s.logging.select (settings.selection? s.terminal) := by
  rw [obey, Settings.selection?]
  cases settings.debug <;> rfl

section

variable [SettingsLibrary]

theorem selection?_of_not_isConfiguring {a : Action} (h : ¬ a.IsConfiguring) :
    s.selection? a = none := by
  cases a with
  | setUp u =>
    cases u with
    | configure verbose json => exact absurd trivial h
    | gate keywords => exact absurd trivial h
    | load => exact absurd trivial h
    | _ => rfl
  | _ => rfl

/-- What is selected depends on the environment and the terminal alone. -/
theorem selection?_congr {s' : Session} (henv : s'.environment = s.environment)
    (hterm : s'.terminal = s.terminal) (a : Action) : s'.selection? a = s.selection? a := by
  cases a with
  | setUp u => cases u <;> simp only [selection?, henv, hterm]
  | _ => rfl

theorem gate_eq_select (s : Session) :
    s.gate.2.1 = s.logging.select (s.selection? (.setUp .load)) := by
  rw [gate, selection?]
  cases Settings.resolve s.environment [] with
  | error report => rfl
  | ok settings => exact s.obey_eq_select settings

/-- An action makes of the loggers what it selects. -/
theorem logging_act (s : Session) (a : Action) :
    (s.act a).2.logging = s.logging.select (s.selection? a) := by
  cases a with
  | inquire i => rfl
  | ask t q => rfl
  | edit e =>
    simp only [act]
    cases s.registry.edit e <;> rfl
  | setUp u =>
    change (s.setUp u).2.1 = _
    cases u with
    | settings keywords assignment =>
      simp only [setUp]
      split
      · rfl
      · rfl
      · split <;> rfl
    | compareSettings a b => simp only [setUp]; split <;> rfl
    | configure verbose json => rfl
    | gate keywords =>
      cases keywords with
      | none => exact s.gate_eq_select
      | some keywords =>
        rw [setUp, selection?, Option.getD_some]
        cases Settings.resolve s.environment keywords with
        | error report => rfl
        | ok settings => exact s.obey_eq_select settings
    | load => exact s.gate_eq_select
    | showLogging => rfl
    | idle => rfl

theorem logging_step (s : Session) (step : Step) :
    (s.step step).2.logging = s.logging.select ((s.enter step).selection? step.action) :=
  (s.enter step).logging_act step.action

/-! ### Runs -/

theorem selections_append (s : Session) (xs ys : List Step) :
    s.selections (xs ++ ys) = s.selections xs ++ (s.run xs).2.selections ys := by
  induction xs generalizing s with
  | nil => rfl
  | cons step xs ih => simp only [List.cons_append, selections, ih, run_cons, List.append_assoc]

/-- Something is selected in a run exactly if one of its steps selects it where the run has got. -/
theorem selections_ne_nil_iff (s : Session) (steps : List Step) :
    s.selections steps ≠ [] ↔ ∃ past step later, steps = past ++ step :: later ∧
      (((s.run past).2.enter step).selection? step.action).isSome := by
  constructor
  · intro h
    induction steps generalizing s with
    | nil => exact absurd rfl h
    | cons step steps ih =>
      cases hc : (s.enter step).selection? step.action with
      | some c => exact ⟨[], step, steps, rfl, by simp [hc]⟩
      | none =>
        rw [selections, hc] at h
        obtain ⟨past, step', later, rfl, hsome⟩ := ih (s.step step).2 h
        exact ⟨step :: past, step', later, rfl, hsome⟩
  · rintro ⟨past, step, later, rfl, hsome⟩
    obtain ⟨c, hc⟩ := Option.isSome_iff_exists.mp hsome
    rw [selections_append, selections, hc]
    simp

/-- A run makes of the loggers what it selects last. -/
theorem logging_run (s : Session) (steps : List Step) :
    (s.run steps).2.logging = s.logging.select (s.selections steps).getLast? := by
  induction steps generalizing s with
  | nil => rfl
  | cons step steps ih =>
    have hlast : ∀ c : Option Selection, c.toList.getLast? = c := by
      intro c
      cases c <;> rfl
    rw [run_cons, ih, logging_step, Logging.select_select, selections, List.getLast?_append, hlast]

/-- From the start on, the package's logger is configured once something is selected. -/
theorem isConfigured_run_iff (steps : List Step) :
    (({} : Session).run steps).2.logging.package.IsConfigured
      ↔ ({} : Session).selections steps ≠ [] := by
  rw [logging_run, Logging.select]
  cases hlast : (({} : Session).selections steps).getLast? with
  | none =>
    have huntouched : ({} : Logger).IsUntouched := ⟨rfl, rfl, rfl⟩
    rw [List.getLast?_eq_none_iff] at hlast
    exact iff_of_false huntouched.not_isConfigured (not_not_intro hlast)
  | some c =>
    refine iff_of_true c.isConfigured_logger ?_
    intro hnil
    rw [hnil] at hlast
    cases hlast

/-- **The package's logger is that of the latest selection.**  At every point of every session it is
as at the start or configured; it is configured exactly if some step has selected something, and
then it stays configured; and the selection that counts is the latest one alone, for it depends on
nothing that was configured before.  The root never changes, and only the steps that configure
change the package's logger. -/
theorem latest_selection_decides (steps : List Step) :
    let s := (({} : Session).run steps).2
    let latest? := (({} : Session).selections steps).getLast?
    s.logging.package = (latest?.map Selection.logger).getD {} ∧
    (s.logging.package.IsUntouched ∨ s.logging.package.IsConfigured) ∧
    (s.logging.package.IsConfigured ↔ ∃ past step later, steps = past ++ step :: later ∧
      ((((({} : Session).run past).2.enter step).selection? step.action).isSome)) ∧
    (∀ more, s.logging.package.IsConfigured →
      (({} : Session).run (steps ++ more)).2.logging.package.IsConfigured) ∧
    s.logging.root = { level := Level.warning.severity } ∧
    (∀ step : Step, ¬ step.action.IsConfiguring → (s.step step).2.logging = s.logging) ∧
    ∀ step c, (s.enter step).selection? step.action = some c →
      ∀ s' : Session, s'.environment = s.environment → s'.terminal = s.terminal →
        (s'.step step).2.logging.package = c.logger := by
  intro s latest?
  have hlogging : s.logging = Logging.select {} latest? := logging_run {} steps
  refine ⟨?_, ?_, ?_, fun more h => ?_, ?_, fun step h => ?_, fun step c hc s' henv hterm => ?_⟩
  · rw [hlogging]
    rfl
  · rw [hlogging]
    cases latest? with
    | none => exact Or.inl ⟨rfl, rfl, rfl⟩
    | some c => exact Or.inr c.isConfigured_logger
  · rw [← selections_ne_nil_iff]
    exact isConfigured_run_iff steps
  · rw [isConfigured_run_iff] at h ⊢
    rw [selections_append]
    exact List.append_ne_nil_of_left_ne_nil h _
  · rw [hlogging]
    rfl
  · rw [logging_step, selection?_of_not_isConfiguring h, Logging.select_none]
  · have henter : (s'.enter step).selection? step.action = some c := by
      rw [← hc]
      refine selection?_congr ?_ ?_ step.action
      · simp only [enter, henv]
      · simp only [enter, hterm]
    rw [logging_step, henter]
    rfl

end

/-- Only the middle one of three counts: the last one can not be read, and what it finds stays. -/
example : (({} : Session).run [
    { action := .setUp (.configure false true), terminal := some true },
    { action := .setUp .load, environment := some [("TYPE_CHECK_DEBUG", "1")] },
    { action := .setUp (.gate none), environment := some [("TYPE_CHECK_DEBUG", "type-check")] }
    ]).2.logging.package = ⟨10, [.console true], false⟩ := by decide

end Session

end NominalCheck
