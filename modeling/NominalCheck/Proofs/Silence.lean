import NominalCheck.Proofs.Configuration
import NominalCheck.Proofs.Questions

/-!
# When a check writes

A check tells its steps on the lower level, and loggers that nobody has configured let only
warnings pass.  So nothing of a check is written until a configuration lets its steps pass, and what
is written then is written by the one handler which that configuration has installed: each event
once, in the order in which it was told.

## Main definitions

* `Run.TellsSteps r` — all events of `r` are of the lower level.
* `Logging.IsQuiet l` — events of the lower level are not let pass.
* `Session.SwitchesOn s a` — the action switches the trace on.
* `Session.StaysOff s steps` — no step of a run does.
* `Outcome.written stamp o` — the text that is written of an outcome.

## Main results

* `Session.tellsSteps_ask` — a question tells nothing but steps.
* `Logging.lines_of_verbose`, `Logging.IsQuiet.lines` — what the loggers make of an event.
* `Session.run_of_staysOff` — while nothing switches the trace on, the loggers stay quiet.
* `Session.checks_write_only_when_switched_on` — **nothing of a check is written unless the latest
  selection is verbose**, and then all of it.
-/

namespace NominalCheck

/-! ### What a question tells -/

/-- All events of a run are of the lower level. -/
def Run.TellsSteps {α : Type} (r : Run α) : Prop := ∀ e ∈ r.events, e.level = .debug

namespace Run

variable {α β : Type}

theorem tellsSteps_of_silent {r : Run α} (h : r.events = []) : r.TellsSteps := by
  intro e he
  rw [h] at he
  cases he

theorem TellsSteps.bind {r : Run α} {f : α → Run β} (hr : r.TellsSteps)
    (hf : ∀ a, (f a).TellsSteps) : (r >>= f).TellsSteps := by
  intro e he
  cases h : r.outcome with
  | error g =>
    rw [bind_of_error h] at he
    exact hr e he
  | ok a =>
    rw [bind_of_ok h] at he
    rcases List.mem_append.mp he with he | he
    · exact hr e he
    · exact hf a e he

end Run

theorem level_of_mem_trials {v given : Value} {es : List Entry} {e : Event}
    (he : e ∈ trials v given es) : e.level = .debug := by
  induction es with
  | nil => cases he
  | cons entry es ih =>
    cases ha : entry.accepts v given with
    | true =>
      rw [trials_cons_of_accepts ha] at he
      rw [List.mem_singleton.mp he]
      rfl
    | false =>
      rw [trials_cons_of_not_accepts ha] at he
      rcases List.mem_cons.mp he with rfl | he
      · rfl
      rcases List.mem_cons.mp he with rfl | he
      · rfl
      · exact ih he

theorem tellsSteps_matching (es : List Entry) (v given : Value) :
    (matching es v given).TellsSteps := by
  intro e he
  rcases List.mem_cons.mp he with rfl | he
  · rfl
  · exact level_of_mem_trials he

namespace Classifier

theorem events_askAmbient (c : Classifier) (history : List Handle) (v : Value) :
    (c.askAmbient history v).events = [] := by
  cases c with
  | nested handle descriptor =>
    cases h : descriptor.entries with
    | error f => simp only [askAmbient, h]; rfl
    | ok es => simp only [askAmbient, h]; rfl
  | _ => rfl

/-- The only events of a classifier are those of the check that it makes itself. -/
theorem tellsSteps_ask (c ambient : Classifier) (history : List Handle) (v : Value) :
    (c.ask ambient history v).TellsSteps := by
  cases c with
  | nested handle descriptor =>
    refine Run.TellsSteps.bind (Run.tellsSteps_of_silent rfl) fun _ => ?_
    refine Run.TellsSteps.bind (Run.tellsSteps_of_silent rfl) fun es => ?_
    refine Run.TellsSteps.bind (Run.tellsSteps_of_silent (events_askAmbient _ _ _)) fun given => ?_
    exact Run.TellsSteps.bind (tellsSteps_matching es v given) fun _ =>
      Run.tellsSteps_of_silent rfl
  | _ => exact Run.tellsSteps_of_silent (events_askAmbient _ history v)

end Classifier

namespace Question

theorem tellsSteps_opening (q : Question) : q.opening.TellsSteps := by
  cases q with
  | check d v =>
    intro e he
    rw [List.mem_singleton.mp he]
    rfl
  | _ => exact Run.tellsSteps_of_silent rfl

theorem tellsSteps_finish (q : Question) (es : List String) (given : Value) :
    (q.finish es given).TellsSteps := by
  -- the two forms on a descriptor tell what matching tells, those on an entry one test for each
  have htests : ∀ v : Value, ∀ e ∈ es.map fun text => Event.testing (Entry.parse text).name v,
      e.level = .debug := by
    intro v e he
    obtain ⟨text, -, rfl⟩ := List.mem_map.mp he
    rfl
  cases q with
  | check d v => exact tellsSteps_matching (es.map Entry.parse) v given
  | accepts d v => exact tellsSteps_matching (es.map Entry.parse) v given
  | assertEntry entry v => exact htests v
  | acceptsEntry entry v => exact htests v
  | classify v => exact Run.tellsSteps_of_silent rfl

theorem tellsSteps_run (q : Question) (k : Checker) : (q.run k).TellsSteps := by
  rw [run_eq]
  refine q.tellsSteps_opening.bind fun _ => ?_
  refine Run.TellsSteps.bind (Run.tellsSteps_of_silent rfl) fun es => ?_
  exact Run.TellsSteps.bind (Classifier.tellsSteps_ask _ _ _ _) fun given =>
    q.tellsSteps_finish es given

end Question

/-! ### What the loggers make of an event -/

namespace Logging

variable {l : Logging} {c : Selection} {e : Event}

/-- A verbose selection lets every event pass to its one handler. -/
theorem lines_of_verbose (hl : l.package = c.logger) (hc : c.verbose = true) :
    l.lines e = [⟨c.format, e⟩] := by
  have hlevel : l.effectiveLevel = Level.debug.severity := by
    rw [effectiveLevel, hl, Selection.logger, hc]
    rfl
  have hhandlers : l.handlers = [c.format] := by
    rw [handlers, hl, Selection.logger]
    rfl
  have hpass : l.lets e = true := by
    rw [lets, hlevel]
    cases e.level <;> decide
  rw [lines, hpass, hhandlers]
  rfl

/-- The loggers let no step of a check pass. -/
def IsQuiet (l : Logging) : Prop := Level.debug.severity < l.effectiveLevel

theorem isQuiet_initial : ({} : Logging).IsQuiet := by
  unfold IsQuiet
  decide

theorem IsQuiet.lines (hl : l.IsQuiet) (he : e.level = .debug) : l.lines e = [] := by
  have hstops : l.lets e = false := by
    rw [lets, he, decide_eq_false_iff_not, Nat.not_le]
    exact hl
  exact if_pos hstops

theorem IsQuiet.select (hl : l.IsQuiet) {c? : Option Selection}
    (hc : ∀ c ∈ c?, c.verbose = false) : (l.select c?).IsQuiet := by
  cases c? with
  | none => exact hl
  | some c =>
    have hlevel : (l.select (some c)).effectiveLevel = Level.warning.severity := by
      change (if c.logger.level = 0 then _ else c.logger.level) = _
      rw [Selection.logger, hc c rfl]
      rfl
    rw [IsQuiet, hlevel]
    decide

end Logging

/-! ### Switching the trace on -/

namespace Session

/-- What settings select is verbose, if they select anything at all. -/
theorem exists_verbose_of_settings_iff (x : Except Report Settings) (terminal : Bool) :
    (∃ c, x.toOption.bind (·.selection? terminal) = some c ∧ c.verbose = true) ↔
      ∃ settings, x = .ok settings ∧ settings.debug = true := by
  cases x with
  | error report => simp [Except.toOption]
  | ok settings =>
    cases hd : settings.debug <;> simp [Except.toOption, Settings.selection?, hd]

variable [SettingsLibrary]

/-- An action that switches the trace on: one that configures the loggers so, or one that runs the
gate on settings which ask for it. -/
def SwitchesOn (s : Session) : Action → Prop
  | .setUp (.configure verbose _) => verbose = true
  | .setUp (.gate keywords) => ∃ settings,
    Settings.resolve s.environment (keywords.getD []) = .ok settings ∧ settings.debug = true
  | .setUp .load => ∃ settings,
    Settings.resolve s.environment [] = .ok settings ∧ settings.debug = true
  | _ => False

/-- No step of a run switches the trace on. -/
def StaysOff (s : Session) : List Step → Prop
  | [] => True
  | step :: steps => ¬ (s.enter step).SwitchesOn step.action ∧ StaysOff (s.step step).2 steps

theorem switchesOn_iff (s : Session) (a : Action) :
    s.SwitchesOn a ↔ ∃ c, s.selection? a = some c ∧ c.verbose = true := by
  cases a with
  | setUp u =>
    cases u with
    | configure verbose json => simp [SwitchesOn, selection?]
    | gate keywords => exact (exists_verbose_of_settings_iff _ _).symm
    | load => exact (exists_verbose_of_settings_iff _ _).symm
    | _ => simp [SwitchesOn, selection?]
  | _ => simp [SwitchesOn, selection?]

end Session

/-! ### What is written -/

/-- The text that is written of an outcome, at the time `stamp`. -/
def Outcome.written (stamp : String) (o : Outcome) : String :=
  String.join (o.lines.map (Line.text stamp))

theorem Line.text_ne_empty (stamp : String) (l : Line) : l.text stamp ≠ "" := by
  intro h
  have hl := congrArg String.toList h
  simp [Line.text] at hl

theorem Outcome.written_eq_empty_iff (stamp : String) (o : Outcome) :
    o.written stamp = "" ↔ o.lines = [] := by
  rw [written]
  cases o.lines with
  | nil => exact iff_of_true String.join_nil rfl
  | cons line lines =>
    refine iff_of_false ?_ (List.cons_ne_nil line lines)
    rw [List.map_cons, String.join_cons, String.append_eq_empty_iff]
    exact fun h => line.text_ne_empty stamp h.1

namespace Session

theorem tellsSteps_ask (s : Session) (t : Target) (q : Question) : (s.ask t q).TellsSteps :=
  Run.TellsSteps.bind (Run.tellsSteps_of_silent rfl) fun c => q.tellsSteps_run (s.checkerOf c)

section

variable [SettingsLibrary]

theorem lines_step_of_isQuiet {s : Session} (hs : s.logging.IsQuiet) {step : Step} {t : Target}
    {q : Question} (ha : step.action = .ask t q) : (s.step step).1.lines = [] := by
  have hevents : (s.ask t q).events.flatMap s.logging.lines = [] := by
    rw [List.flatMap_eq_nil_iff]
    exact fun e he => hs.lines (s.tellsSteps_ask t q e he)
  obtain ⟨action, environment, terminal, traced⟩ := step
  cases ha
  cases traced with
  | true => rfl
  | false => exact hevents

theorem isQuiet_step {s : Session} (hs : s.logging.IsQuiet) {step : Step}
    (hstep : ¬ (s.enter step).SwitchesOn step.action) : (s.step step).2.logging.IsQuiet := by
  rw [logging_step]
  refine hs.select fun c hc => ?_
  rw [switchesOn_iff] at hstep
  rw [← Bool.not_eq_true]
  exact fun hv => hstep ⟨c, hc, hv⟩

/-- Loggers that are quiet stay so while no step switches the trace on, and no check of the run is
written. -/
theorem run_of_staysOff {s : Session} (hs : s.logging.IsQuiet) {steps : List Step}
    (h : s.StaysOff steps) :
    (s.run steps).2.logging.IsQuiet ∧ ∀ p ∈ steps.zip (s.run steps).1,
      (∃ t q, p.1.action = .ask t q) → p.2.lines = [] := by
  induction steps generalizing s with
  | nil => exact ⟨hs, fun _ hp => nomatch hp⟩
  | cons step steps ih =>
    obtain ⟨hstep, hrest⟩ := h
    obtain ⟨hlast, hlines⟩ := ih (isQuiet_step hs hstep) hrest
    rw [run_cons]
    refine ⟨hlast, fun p hp => ?_⟩
    rcases List.mem_cons.mp hp with rfl | hp
    · rintro ⟨t, q, ha⟩
      exact lines_step_of_isQuiet hs ha
    · exact hlines p hp

theorem lines_step_of_verbose {s : Session} {c : Selection} (hl : s.logging.package = c.logger)
    (hc : c.verbose = true) (step : Step) (t : Target) (q : Question) :
    (s.step { step with action := .ask t q, traced := false }).1.lines
      = (s.ask t q).events.map (⟨c.format, ·⟩) := by
  have hlines : s.logging.lines = fun e => [⟨c.format, e⟩] :=
    funext fun e => Logging.lines_of_verbose hl hc
  change (s.ask t q).events.flatMap s.logging.lines = _
  rw [hlines, List.map_eq_flatMap]

/-- **Nothing of a check is written unless the latest selection is verbose**, and then all of it:
each event once and in order, by the one handler of that selection.  So a session in which the
trace is never switched on writes nothing of its checks, whatever becomes of them. -/
theorem checks_write_only_when_switched_on (past : List Step) (step : Step) (t : Target)
    (q : Question) :
    let s := (({} : Session).run past).2
    let latest? := (({} : Session).selections past).getLast?
    let events := (s.ask t q).events
    let outcome := (s.step { step with action := .ask t q, traced := false }).1
    -- the events are those that are collected where the step is traced
    (s.step { step with action := .ask t q, traced := true }).1.trace = some events ∧
    ((∀ c ∈ latest?, c.verbose = false) → ∀ stamp, outcome.written stamp = "") ∧
    (∀ c ∈ latest?, c.verbose = true →
      s.logging.handlers = [c.format] ∧
      ∀ stamp,
        outcome.written stamp = String.join (events.map fun e => Line.text stamp ⟨c.format, e⟩) ∧
        (outcome.written stamp ≠ "" ↔ events ≠ [])) ∧
    -- the trace is never switched on
    (({} : Session).StaysOff past → ∀ stamp, outcome.written stamp = "" ∧
      ∀ p ∈ past.zip (({} : Session).run past).1, (∃ t q, p.1.action = .ask t q) →
        p.2.written stamp = "") := by
  intro s latest? events outcome
  have hlogging : s.logging = Logging.select {} latest? := logging_run {} past
  have hquiet : s.logging.IsQuiet → ∀ stamp, outcome.written stamp = "" := fun hs stamp =>
    (outcome.written_eq_empty_iff stamp).mpr (lines_step_of_isQuiet hs rfl)
  refine ⟨rfl, fun hlatest => hquiet ?_, fun c hc hverbose => ?_, fun hoff stamp => ?_⟩
  · rw [hlogging]
    exact Logging.isQuiet_initial.select hlatest
  · rw [hc] at hlogging
    have hpackage : s.logging.package = c.logger := by
      rw [hlogging]
      rfl
    have hlines : outcome.lines = events.map (⟨c.format, ·⟩) :=
      lines_step_of_verbose hpackage hverbose step t q
    refine ⟨?_, fun stamp => ⟨?_, ?_⟩⟩
    · rw [hlogging]
      rfl
    · rw [Outcome.written, hlines, List.map_map]
      rfl
    · rw [ne_eq, Outcome.written_eq_empty_iff, hlines, List.map_eq_nil_iff]
  · obtain ⟨hs, hpast⟩ := run_of_staysOff Logging.isQuiet_initial hoff
    refine ⟨hquiet hs stamp, fun p hp ha => ?_⟩
    rw [Outcome.written_eq_empty_iff]
    exact hpast p hp ha

end

/-- A handler without the trace, and a variable that can not be read, leave the same mismatch
unwritten which the next reading of the variable brings out. -/
theorem silent_until_switched_on :
    let quiet : List Step := [
      { action := .setUp (.configure false true) },
      { action := .setUp .load, environment := some [("TYPE_CHECK_DEBUG", "maybe")] }]
    let loud : List Step := quiet ++ [
      { action := .setUp (.gate none), environment := some [("TYPE_CHECK_DEBUG", "1")] }]
    let check (past : List Step) : Outcome :=
      ((({} : Session).run past).2.step { action := .ask .ambient (.check (.text "str") .none) }).1
    ({} : Session).StaysOff quiet ∧ ∀ stamp,
      (check quiet).written stamp = "" ∧ (check loud).written stamp ≠ "" := by
  intro quiet loud check
  have hoff : ({} : Session).StaysOff quiet := by
    refine ⟨Bool.false_ne_true, ?_, trivial⟩
    rw [switchesOn_iff]
    rintro ⟨c, hc, -⟩
    cases hc
  have hlatest : (({} : Session).selections loud).getLast? = some ⟨true, .console false⟩ := by
    decide
  obtain ⟨-, -, -, hquiet⟩ := checks_write_only_when_switched_on quiet
    { action := .setUp .idle } .ambient (.check (.text "str") .none)
  obtain ⟨-, -, hloud, -⟩ := checks_write_only_when_switched_on loud
    { action := .setUp .idle } .ambient (.check (.text "str") .none)
  refine ⟨hoff, fun stamp => ⟨(hquiet hoff stamp).1, ?_⟩⟩
  obtain ⟨-, hwritten⟩ := hloud _ hlatest rfl
  exact (hwritten stamp).2.mpr (List.cons_ne_nil _ _)

end Session

end NominalCheck
