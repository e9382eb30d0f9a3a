import NominalCheck.Proofs.Configuration
import NominalCheck.Proofs.Custody

/-!
# Steps that fail

Whatever an operation refuses, it refuses before it has written anything: a classifier is looked at
before it is let in, settings are read before the loggers are touched, and a descriptor is read
before a classifier is called.  So a step that fails leaves the classifiers and the loggers as they
were.  Only the calls stay: those of a check whose value does not match, and those of a classifier
that fails itself.

## Main definitions

* `Session.ClassifierFails s a f` — the classifier that the action consults fails with `f`.

## Main results

* `Session.state_act_of_error` — the session after an action that has failed.
* `Session.calls_act_of_error` — where calls were made, there was a mismatch or a classifier failed.
* `Session.failed_step_changes_nothing` — **a failed step changes nothing**, but for the calls.
* `Session.run_of_failed` — nor does a run of failed steps.
-/

namespace NominalCheck

/-- From an answer a question concludes no fault but a mismatch. -/
theorem Question.conclude_eq_error {q : Question} {es : List String} {given : Value} {f : Fault}
    (h : q.conclude es given = .error f) : ∃ expected, f = .mismatch expected given := by
  -- a demand fails on what is not admitted, and a verdict that is told never fails
  have hraised : ∀ expected v, (judge es v given).raised expected = .error f →
      ∃ expected, f = .mismatch expected given := by
    intro expected v hv
    by_cases ha : Admits es v given
    · rw [judge_of_admits ha] at hv
      cases hv
    · rw [judge_of_not_admits ha] at hv
      cases hv
      exact ⟨expected, rfl⟩
  cases q with
  | check d v => exact hraised _ v h
  | assertEntry e v => exact hraised _ v h
  | accepts d v =>
    rw [conclude, told_judge] at h
    cases h
  | acceptsEntry e v =>
    rw [conclude, told_judge] at h
    cases h
  | classify v => cases h

namespace Session

variable {s : Session} {f : Fault}

/-- The classifier that an action consults fails, and with this fault. -/
def ClassifierFails (s : Session) (a : Action) (f : Fault) : Prop :=
  ∃ t q c es, a = .ask t q ∧ s.classifierOf t = .ok c ∧ q.texts = .ok es ∧
    (c.ask s.registry.ambient s.history q.value).outcome = .error f

section

variable [SettingsLibrary]

/-! ### What is written -/

/-- An action that fails selects nothing for the loggers: refused settings never get there. -/
theorem selection?_of_error {a : Action} (h : (s.act a).1.outcome = .error f) :
    s.selection? a = none := by
  cases a with
  | setUp u =>
    have h : (s.setUp u).1 = .error f := h
    cases u with
    | configure verbose json => cases h
    | gate keywords =>
      cases keywords with
      | none => cases h
      | some keywords =>
        cases hr : Settings.resolve s.environment keywords with
        | error report =>
          rw [selection?, Option.getD_some, hr]
          rfl
        | ok settings =>
          rw [setUp_gate_of_ok hr] at h
          cases h
    | load => cases h
    | _ => rfl
  | _ => rfl

/-- The session after an action that has failed: the calls are noted, and that is all. -/
theorem state_act_of_error {a : Action} (h : (s.act a).1.outcome = .error f) :
    (s.act a).2 = { s with history := s.history ++ (s.act a).1.calls } := by
  have hnothing : { s with history := s.history ++ [] } = s := by rw [List.append_nil]
  cases a with
  | inquire i => exact hnothing.symm
  | ask t q => rfl
  | edit e =>
    cases he : s.registry.edit e with
    | error g =>
      rw [act_edit_of_error he]
      exact hnothing.symm
    | ok p =>
      rw [act_edit_of_ok he] at h
      cases h
  | setUp u =>
    have hlogging : (s.act (.setUp u)).2.logging = s.logging := by
      rw [logging_act, selection?_of_error h, Logging.select_none]
    change { s with logging := (s.act (.setUp u)).2.logging }
      = { s with history := s.history ++ [] }
    rw [hlogging, hnothing]

/-! ### Who is called -/

/-- Where a failing action has made calls, a value did not match or the classifier has failed. -/
theorem calls_act_of_error {a : Action} (h : (s.act a).1.outcome = .error f)
    (hmatch : ∀ expected given, f ≠ .mismatch expected given) (hc : ¬ s.ClassifierFails a f) :
    (s.act a).1.calls = [] := by
  cases a with
  | inquire i => rfl
  | setUp u => rfl
  | edit e =>
    cases he : s.registry.edit e with
    | error g => rw [act_edit_of_error he]; rfl
    | ok p => rw [act_edit_of_ok he]; rfl
  | ask t q =>
    have h : (s.ask t q).outcome = .error f := h
    change (s.ask t q).calls = []
    cases ht : s.classifierOf t with
    | error g => rw [ask_of_missing ht]; rfl
    | ok c =>
      cases hq : q.texts with
      | error g => exact (ask_of_unreadable ht hq).2
      | ok es =>
        -- all is read, so the fault is that of the classifier or is concluded from its answer
        exfalso
        rw [outcome_ask_of_ok ht hq] at h
        cases ha : (c.ask s.registry.ambient s.history q.value).outcome with
        | error g =>
          rw [ha] at h
          cases h
          exact hc ⟨t, q, c, es, rfl, ht, hq, ha⟩
        | ok given =>
          rw [ha] at h
          obtain ⟨expected, hf⟩ := Question.conclude_eq_error h
          exact hmatch expected given hf

/-! ### Steps -/

/-- What a failed step has brought along stays. -/
theorem state_step_of_error {step : Step} (h : (s.step step).1.answer = .error f) :
    (s.step step).2 = { s.enter step with history := s.history ++ (s.step step).1.calls } :=
  state_act_of_error (s := s.enter step) h

/-- However often it is tried, what fails changes neither classifiers nor loggers. -/
theorem run_of_failed {steps : List Step}
    (h : ∀ outcome ∈ (s.run steps).1, ∃ f, outcome.answer = .error f) :
    (s.run steps).2.registry = s.registry ∧ (s.run steps).2.logging = s.logging := by
  induction steps generalizing s with
  | nil => exact ⟨rfl, rfl⟩
  | cons step steps ih =>
    rw [run_cons] at h
    obtain ⟨f, hf⟩ := h _ List.mem_cons_self
    obtain ⟨hregistry, hlogging⟩ := ih fun outcome ho => h outcome (List.mem_cons_of_mem _ ho)
    rw [run_cons, hregistry, hlogging, state_step_of_error hf]
    exact ⟨rfl, rfl⟩

/-- **A failed step changes nothing.**  The process-wide classifier and the stored checkers are as
before, and so are the loggers; what the step has brought along stays, and the calls are noted.  And
there are none to be noted unless a value did not match or the classifier itself has failed. -/
theorem failed_step_changes_nothing (s : Session) (step : Step) (f : Fault)
    (h : (s.step step).1.answer = .error f) :
    let outcome := (s.step step).1
    let next := (s.step step).2
    next.registry = s.registry ∧
    next.logging = s.logging ∧
    next.environment = (s.enter step).environment ∧
    next.terminal = (s.enter step).terminal ∧
    next.history = s.history ++ outcome.calls ∧
    ((∀ expected given, f ≠ .mismatch expected given) → ¬ s.ClassifierFails step.action f →
      outcome.calls = [] ∧ next.history = s.history) := by
  intro outcome next
  have hnext : next = { s.enter step with history := s.history ++ outcome.calls } :=
    state_step_of_error h
  rw [hnext]
  refine ⟨rfl, rfl, rfl, rfl, rfl, fun hmatch hc => ?_⟩
  have hcalls : outcome.calls = [] := calls_act_of_error (s := s.enter step) h hmatch hc
  exact ⟨hcalls, by rw [hcalls, List.append_nil]⟩

end

/-- What can not be applied is not stored, not even in the place of a checker that is there; the
trace that was switched on stays on. -/
theorem derive_uncallable_over_stored :
    let s := (({} : Session).run [
      { action := .setUp (.configure true false) }, { action := .edit (.create "k" none) }]).2
    let step : Step := {
      action := .edit (.derive "k" "k" (.value (.int 5)))
      terminal := some true }
    (s.step step).1.answer = .error (.notAClassifier "int") ∧
      (s.step step).2.registry.find? "k" = some .native ∧
      (s.step step).2.logging.package = ⟨10, [.console false], false⟩ ∧
      (s.step step).2.history = s.history := by
  intro s step
  have h : (s.step step).1.answer = .error (.notAClassifier "int") := rfl
  obtain ⟨hregistry, hlogging, -, -, -, hquiet⟩ := failed_step_changes_nothing s step _ h
  have hclassifier : ¬ s.ClassifierFails step.action (.notAClassifier "int") := by
    rintro ⟨t, q, c, es, ha, -⟩
    cases ha
  refine ⟨h, ?_, ?_, (hquiet (fun _ _ => nofun) hclassifier).2⟩
  · rw [hregistry]
    rfl
  · rw [hlogging]
    rfl

end Session

end NominalCheck
