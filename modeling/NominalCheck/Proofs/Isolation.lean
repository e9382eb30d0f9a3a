import NominalCheck.Proofs.Renumbering

/-!
# Checking apart from its trace

A check tells events on its way, and where these go is for the loggers, the environment and the
terminal to say.  None of them is ever read by a check.  So two sessions in which the same is
checked, one after the other, show the same of it, whatever is set up in between, and whether the
events are written, collected or dropped.

## Main definitions

* `checkings steps` — what is checked in several steps: all actions but those of set-up.
* `Session.core s` — what checking knows of a session: who classifies, and the calls so far.
* `Session.sights s steps` — what is to be seen of the checkings of a run.

## Main results

* `Session.sights_bareSteps` — a run shows what its checkings show when nothing comes between them.
* `Session.checking_ignores_trace` — **runs with the same checkings show the same.**
-/

namespace NominalCheck

/-- Whether an action has to do with values, descriptors or classifiers, and not with settings and
loggers. -/
def Action.isChecking : Action → Bool
  | .setUp _ => false
  | _ => true

/-- What is checked in several steps, in order. -/
def checkings (steps : List Step) : List Action :=
  (steps.map Step.action).filter Action.isChecking

theorem checkings_cons_of_isChecking {step : Step} (h : step.action.isChecking = true)
    (steps : List Step) : checkings (step :: steps) = step.action :: checkings steps := by
  rw [checkings, List.map_cons, List.filter_cons_of_pos h, checkings]

theorem checkings_cons_of_not {step : Step} (h : step.action.isChecking = false)
    (steps : List Step) : checkings (step :: steps) = checkings steps := by
  rw [checkings, List.map_cons, List.filter_cons_of_neg (by simp [h]), checkings]

/-- A reply as it is told: a classifier by its label. -/
def Reply.told : Reply → Reply ⊕ String
  | .classifier c => .inr c.label
  | r => .inl r

/-- What is to be seen of one checking. -/
structure Sight where
  /-- The answer. -/
  answer : Except Fault Reply
  /-- The calls made. -/
  calls : List Handle
  /-- Who classifies after it. -/
  registry : Registry
  /-- All calls made up to its end. -/
  history : List Handle

namespace Sight

/-- The answer as it is told, and how many calls were made for it. -/
def told (w : Sight) : Except Fault (Reply ⊕ String) × Nat :=
  (w.answer.map Reply.told, w.calls.length)

/-- The sight after the places of the classifiers have changed. -/
def renumber (f : Nat → Nat) (w : Sight) : Sight where
  answer := w.answer.map (Reply.renumber f)
  calls := w.calls.map (Handle.renumber f)
  registry := w.registry.renumber f
  history := w.history.map (Handle.renumber f)

theorem told_renumber (f : Nat → Nat) (w : Sight) : (w.renumber f).told = w.told := by
  obtain ⟨answer, calls, registry, history⟩ := w
  simp only [told, renumber, List.length_map]
  cases answer with
  | error g => rfl
  | ok r =>
    cases r with
    | classifier c => simp only [Except.map, Reply.renumber, Reply.told, Classifier.label_renumber]
    | _ => rfl

end Sight

/-- Actions as steps that bring nothing along. -/
def bareSteps (as : List Action) : List Step :=
  as.map fun a => { action := a }

theorem bareSteps_map_renumber (f : Nat → Nat) (as : List Action) :
    bareSteps (as.map (Action.renumber f)) = (bareSteps as).map (Step.renumber f) := by
  simp only [bareSteps, List.map_map]
  rfl

namespace Session

section

variable [SettingsLibrary]

/-- What is to be seen of a step. -/
def sight (s : Session) (step : Step) : Sight where
  answer := (s.step step).1.answer
  calls := (s.step step).1.calls
  registry := (s.step step).2.registry
  history := (s.step step).2.history

/-- What is to be seen of the checkings of a run, in order. -/
def sights (s : Session) : List Step → List Sight
  | [] => []
  | step :: steps =>
    if step.action.isChecking then s.sight step :: sights (s.step step).2 steps
    else sights (s.step step).2 steps

/-- The session with who classifies and the calls so far, and all else as at the start. -/
def core (s : Session) : Session :=
  { registry := s.registry, history := s.history }

/-! ### What a checking reads and leaves -/

theorem core_step_of_not (s : Session) {step : Step} (h : step.action.isChecking = false) :
    (s.step step).2.core = s.core := by
  obtain ⟨action, environment, terminal, traced⟩ := step
  cases action with
  | setUp u => rfl
  | _ => cases h

/-- A checking reads nothing but the core. -/
theorem act_core (s : Session) {a : Action} (h : a.isChecking = true) :
    (s.core.act a).1 = (s.act a).1 ∧ (s.core.act a).2 = (s.act a).2.core := by
  cases a with
  | inquire i => exact ⟨rfl, rfl⟩
  | ask t q => exact ⟨rfl, rfl⟩
  | edit e =>
    cases he : s.registry.edit e with
    | error g =>
      have he' : s.core.registry.edit e = .error g := he
      rw [act_edit_of_error he, act_edit_of_error he']
      exact ⟨rfl, rfl⟩
    | ok p =>
      have he' : s.core.registry.edit e = .ok (p.1, p.2) := he
      rw [act_edit_of_ok he, act_edit_of_ok he']
      exact ⟨rfl, rfl⟩
  | setUp u => cases h

/-- What is to be seen after an action. -/
def sightOf (acted : Run Reply × Session) : Sight :=
  ⟨acted.1.outcome, acted.1.calls, acted.2.registry, acted.2.history⟩

theorem sight_eq (s : Session) (step : Step) :
    s.sight step = sightOf ((s.enter step).act step.action) := rfl

/-- So a checking is seen alike whatever its step brings along, and leaves the same core. -/
theorem step_core (s : Session) {step : Step} (h : step.action.isChecking = true) :
    s.core.sight { action := step.action } = s.sight step ∧
      (s.core.step { action := step.action }).2 = (s.step step).2.core := by
  -- what a step brings is no part of the core
  have hentered : (s.enter step).core = s.core := rfl
  have hbare : s.core.enter { action := step.action } = s.core := rfl
  obtain ⟨hrun, hnext⟩ := (s.enter step).act_core h
  rw [hentered] at hrun hnext
  rw [sight_eq, sight_eq, state_step, state_step, hbare]
  refine ⟨?_, hnext⟩
  rw [sightOf, sightOf, hrun, hnext]
  rfl

/-! ### Runs -/

/-- **A run shows what its checkings show when nothing comes between them**, and leaves the same
core. -/
theorem sights_bareSteps (s : Session) (steps : List Step) :
    s.core.sights (bareSteps (checkings steps)) = s.sights steps ∧
      (s.core.run (bareSteps (checkings steps))).2 = (s.run steps).2.core := by
  induction steps generalizing s with
  | nil => exact ⟨rfl, rfl⟩
  | cons step steps ih =>
    obtain ⟨hsights, hlast⟩ := ih (s.step step).2
    cases h : step.action.isChecking with
    | true =>
      obtain ⟨hsight, hnext⟩ := s.step_core h
      rw [checkings_cons_of_isChecking h, bareSteps, List.map_cons, run_cons, run_cons, sights,
        sights, if_pos h, if_pos h, hsight, hnext]
      exact ⟨congrArg (s.sight step :: ·) hsights, hlast⟩
    | false =>
      rw [checkings_cons_of_not h, sights, if_neg (by simp [h]), run_cons]
      rw [s.core_step_of_not h] at hsights hlast
      exact ⟨hsights, hlast⟩

variable {f : Nat → Nat}

theorem sight_renumber (hf : f.Injective) (s : Session) (step : Step) :
    (s.renumber f).sight (step.renumber f) = (s.sight step).renumber f := by
  obtain ⟨houtcome, hcalls, -, hnext⟩ := (s.enter step).act_renumber hf step.action
  have hentered : (s.renumber f).enter (step.renumber f) = (s.enter step).renumber f := rfl
  rw [sight_eq, sight_eq, hentered]
  change sightOf (((s.enter step).renumber f).act (step.action.renumber f)) = _
  rw [sightOf, sightOf, houtcome, hcalls, hnext]
  rfl

theorem sights_renumber (hf : f.Injective) (s : Session) (steps : List Step) :
    (s.renumber f).sights (steps.map (Step.renumber f))
      = (s.sights steps).map (Sight.renumber f) := by
  induction steps generalizing s with
  | nil => rfl
  | cons step steps ih =>
    have hsame : (step.renumber f).action.isChecking = step.action.isChecking := by
      obtain ⟨action, environment, terminal, traced⟩ := step
      cases action <;> rfl
    rw [List.map_cons, sights, sights, hsame, sight_renumber hf, state_step_renumber s hf, ih]
    cases step.action.isChecking <;> rfl

/-- **Runs with the same checkings show the same.**  The runs may start with other loggers, another
environment and another terminal, and differ in all set-up and in what comes along with the steps.
Each checking is answered alike after as many calls, and leaves the same classifiers with the same
calls behind them.  The steps between move the places `f` of classifiers that are written down
without a name. -/
theorem checking_ignores_trace (f : Nat → Nat) (hf : f.Injective) (s s' : Session)
    (hs : s'.core = s.core.renumber f) (steps steps' : List Step)
    (h : checkings steps' = (checkings steps).map (Action.renumber f)) :
    (s'.sights steps').map Sight.told = (s.sights steps).map Sight.told ∧
      s'.sights steps' = (s.sights steps).map (Sight.renumber f) ∧
      (s'.run steps').2.core = (s.run steps).2.core.renumber f := by
  obtain ⟨hsights, hlast⟩ := s.sights_bareSteps steps
  obtain ⟨hsights', hlast'⟩ := s'.sights_bareSteps steps'
  have hbare : bareSteps (checkings steps')
      = (bareSteps (checkings steps)).map (Step.renumber f) := by
    rw [h, bareSteps_map_renumber]
  have hall : s'.sights steps' = (s.sights steps).map (Sight.renumber f) := by
    rw [← hsights', hs, hbare, sights_renumber hf, hsights]
  refine ⟨?_, hall, ?_⟩
  · rw [hall, List.map_map]
    exact List.map_congr_left fun w _ => w.told_renumber f
  · rw [← hlast', hs, hbare, state_run_renumber _ hf, hlast]

end

/-- One session checks quietly.  In the other one a handler is installed first and the library is
loaded again in between, so that the sequence is written down one place later and every check is
written out.  The mismatch and the second answer are the same. -/
theorem sights_behind_handler :
    let names (place : Nat) : Classifier :=
      .ruled (.inline place) (.sequence [.text "int", .text "str"])
    let check : Action := .ask (.stored "k") (.check (.text "str") (.int 5))
    let quiet : List Step := [
      { action := .edit (.create "k" (some (names 0))) }, { action := check }, { action := check }]
    let loud : List Step := [
      { action := .setUp (.configure true true), terminal := some true },
      { action := .edit (.create "k" (some (names 1)))
        environment := some [("TYPE_CHECK_DEBUG", "yes")] },
      { action := check },
      { action := .setUp .load },
      { action := check }]
    checkings loud = (checkings quiet).map (Action.renumber Nat.succ) ∧
      (({} : Session).sights loud).map Sight.told = (({} : Session).sights quiet).map Sight.told ∧
      (({} : Session).run quiet).1.map (·.lines.length) = [0, 0, 0] ∧
      (({} : Session).run loud).1.map (·.lines.length) = [0, 0, 4, 0, 3] := by
  intro names check quiet loud
  have h : checkings loud = (checkings quiet).map (Action.renumber Nat.succ) := rfl
  have hsame := checking_ignores_trace Nat.succ (fun _ _ => Nat.succ.inj) {} {} rfl quiet loud h
  exact ⟨h, hsame.1, by decide, by decide⟩

end Session

end NominalCheck
