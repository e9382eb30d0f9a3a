import NominalCheck.Proofs.Custody

/-!
# How often a classifier is asked

A classifier that keeps count answers by the number of its calls, and it may be held by several
checkers and by the process.  Where no classifier asks another one, a question that can be read is
one call, and nothing else is a call: so the count of the calls is a count of the questions, in
whatever order they come and however they end.

## Main definitions

* `Session.consulted?` — the classifier that an action consults.
* `Session.consultations` — how many steps of a run consult the classifier with a given handle.

## Main results

* `Session.count_calls_step` — what a step consults is called once, and nothing else.
* `Session.count_history_run` — the calls of a run are its consultations.
* `Session.each_consultation_is_one_call` — **the `k`-th consultation is the `k`-th call**, and its
  answer decides.
-/

namespace NominalCheck

/-- What a step is given asks no other classifier. -/
def Step.IsDirect (step : Step) : Prop :=
  ∀ c ∈ step.action.given?, c.IsDirect

instance : DecidablePred Step.IsDirect := fun step =>
  inferInstanceAs (Decidable (∀ c ∈ step.action.given?, c.IsDirect))

/-- The answer of a sequence is the one at its place, and past the end the last one. -/
theorem Rule.answer_sequence {answers : List Value} {n : Nat} {given : Value}
    (h : answers[min n (answers.length - 1)]? = some given) (v : Value) :
    (Rule.sequence answers).answer n v = .ok given := by
  have hpos : 0 < answers.length := by
    cases answers with
    | nil => cases h
    | cons answer answers => exact Nat.succ_pos _
  have hanswer : answers[n]?.or answers.getLast? = some given := by
    by_cases hn : n < answers.length
    · rw [Nat.min_eq_left (by omega)] at h
      rw [h, Option.some_or]
    · rw [Nat.min_eq_right (by omega)] at h
      rw [List.getElem?_eq_none (by omega), Option.none_or, List.getLast?_eq_getElem?, h]
  rw [Rule.answer, hanswer]

namespace Session

variable {s : Session}

/-! ### One step -/

/-- The classifier that an action consults: that of the target of a question, once the question is
read. -/
def consulted? (s : Session) : Action → Option Classifier
  | .ask t q => match q.texts with
    | .ok _ => (s.classifierOf t).toOption
    | .error _ => none
  | _ => none

/-- Whether an action consults the classifier with the given handle. -/
def consults (s : Session) (h : Handle) (a : Action) : Bool :=
  (s.consulted? a).any (·.handle? == some h)

theorem isDirect_of_classifierOf (hs : s.registry.All Classifier.IsDirect) {t : Target}
    {q : Question} (hq : ∀ c ∈ (Action.ask t q).given?, c.IsDirect) {c : Classifier}
    (hc : s.classifierOf t = .ok c) : c.IsDirect := by
  refine all_classifierOf hs (fun d ht _ => hq d ?_) hc
  rw [ht]
  rfl

theorem consulted?_of_unreadable {q : Question} {f : Fault} (ht : q.texts = .error f) (t : Target) :
    s.consulted? (.ask t q) = none := by
  unfold consulted?
  dsimp only
  rw [ht]

theorem consulted?_of_missing {t : Target} {f : Fault} (hc : s.classifierOf t = .error f)
    (q : Question) : s.consulted? (.ask t q) = none := by
  cases ht : q.texts with
  | error g => exact consulted?_of_unreadable ht t
  | ok es =>
    unfold consulted?
    dsimp only
    rw [ht, hc]
    rfl

theorem consulted?_of_ok {t : Target} {q : Question} {c : Classifier} {es : List String}
    (hc : s.classifierOf t = .ok c) (ht : q.texts = .ok es) :
    s.consulted? (.ask t q) = some c := by
  unfold consulted?
  dsimp only
  rw [ht, hc]
  rfl

/-- A question calls what it consults, and that once. -/
theorem calls_ask (hs : s.registry.All Classifier.IsDirect) {t : Target} {q : Question}
    (hq : ∀ c ∈ (Action.ask t q).given?, c.IsDirect) :
    (s.ask t q).calls = ((s.consulted? (.ask t q)).bind (·.handle?)).toList := by
  cases hc : s.classifierOf t with
  | error f =>
    rw [ask_of_missing hc, consulted?_of_missing hc]
    rfl
  | ok c =>
    cases ht : q.texts with
    | error f =>
      rw [consulted?_of_unreadable ht]
      exact (ask_of_unreadable hc ht).2
    | ok es =>
      have hdirect : c.IsDirect := isDirect_of_classifierOf hs hq hc
      rw [consulted?_of_ok hc ht, calls_ask_of_ok hc ht, Classifier.calls_ask,
        Classifier.innerCalls_of_isDirect hdirect, List.append_nil]
      rfl

section

variable [SettingsLibrary]

/-- An action calls what it consults, and nothing else. -/
theorem calls_act (hs : s.registry.All Classifier.IsDirect) {a : Action}
    (ha : ∀ c ∈ a.given?, c.IsDirect) :
    (s.act a).1.calls = ((s.consulted? a).bind (·.handle?)).toList := by
  cases a with
  | inquire i => rfl
  | ask t q => exact calls_ask hs ha
  | edit e =>
    cases he : s.registry.edit e with
    | error f => rw [act_edit_of_error he]; rfl
    | ok p => rw [act_edit_of_ok he]; rfl
  | setUp u => rfl

/-- All calls of an action are noted, those of one that fails too. -/
theorem history_act (s : Session) (a : Action) :
    (s.act a).2.history = s.history ++ (s.act a).1.calls := by
  cases a with
  | inquire i => exact (List.append_nil _).symm
  | ask t q => rfl
  | edit e =>
    cases he : s.registry.edit e with
    | error f => rw [act_edit_of_error he]; exact (List.append_nil _).symm
    | ok p => rw [act_edit_of_ok he]; exact (List.append_nil _).symm
  | setUp u => exact (List.append_nil _).symm

theorem history_step (s : Session) (step : Step) :
    (s.step step).2.history = s.history ++ (s.step step).1.calls :=
  (s.enter step).history_act step.action

/-- What a step consults is called once in it, and nothing else is called. -/
theorem count_calls_step (hs : s.registry.All Classifier.IsDirect) {step : Step}
    (hstep : step.IsDirect) (h : Handle) :
    (s.step step).1.calls.count h = if s.consults h step.action then 1 else 0 := by
  -- the environment and terminal that a step brings tell nothing of classifiers
  have hcalls : (s.step step).1.calls = ((s.consulted? step.action).bind (·.handle?)).toList :=
    calls_act (s := s.enter step) hs hstep
  rw [hcalls, consults]
  cases s.consulted? step.action with
  | none => rfl
  | some c =>
    rw [Option.bind_some, Option.any_some]
    cases c.handle? with
    | none => rfl
    | some g => exact List.count_singleton

/-- What a question is answered once it is read and a ruled classifier is asked. -/
theorem answer_step_of_ruled {step : Step} {t : Target} {q : Question} {h : Handle} {rule : Rule}
    {es : List String} (ha : step.action = .ask t q) (hc : s.classifierOf t = .ok (.ruled h rule))
    (ht : q.texts = .ok es) :
    (s.step step).1.answer = rule.answer (s.history.count h) q.value >>= q.conclude es := by
  have hc' : (s.enter step).classifierOf t = .ok (.ruled h rule) := hc
  rw [answer_step, ha]
  exact outcome_ask_of_ok hc' ht

/-! ### A run -/

/-- How many steps of a run consult the classifier with the given handle. -/
def consultations (h : Handle) (s : Session) : List Step → Nat
  | [] => 0
  | step :: steps =>
    (if s.consults h step.action then 1 else 0) + consultations h (s.step step).2 steps

/-- The calls of a run are its consultations. -/
theorem count_history_run (h : Handle) (hs : s.registry.All Classifier.IsDirect) {steps : List Step}
    (hsteps : ∀ step ∈ steps, step.IsDirect) :
    (s.run steps).2.history.count h = s.history.count h + consultations h s steps := by
  induction steps generalizing s with
  | nil => rfl
  | cons step steps ih =>
    have hstep := hsteps step List.mem_cons_self
    -- the rest of the run starts where no classifier asks another one, either
    have hs' := all_step trivial hs fun c hc _ => hstep c hc
    rw [run_cons, ih hs' fun x hx => hsteps x (List.mem_cons_of_mem step hx), history_step,
      List.count_append, count_calls_step hs hstep, consultations, Nat.add_assoc]

/-- The outcome at a place of a run is that of its step, from where the steps before it end. -/
theorem getElem?_run (s : Session) (steps : List Step) (i : Nat) :
    (s.run steps).1[i]? = steps[i]?.map fun step => ((s.run (steps.take i)).2.step step).1 := by
  induction steps generalizing s i with
  | nil => rfl
  | cons step steps ih =>
    cases i with
    | zero => rfl
    | succ i =>
      rw [run_cons, List.getElem?_cons_succ, List.getElem?_cons_succ, ih, List.take_succ_cons]
      rfl

/-- **The `k`-th consultation is the `k`-th call.**  Where no classifier asks another one, every
step of a session calls a classifier that keeps count once if it consults it, and else not at all.
So the question that comes after `k` consultations is answered from the `k`-th answer of the rule
alone, and under a sequence that is its entry at `k`, or the last one. -/
theorem each_consultation_is_one_call (steps : List Step)
    (hsteps : ∀ step ∈ steps, step.IsDirect) :
    (∀ h, (({} : Session).run steps).2.history.count h = consultations h {} steps) ∧
    ∀ i step, steps[i]? = some step →
      let past := steps.take i
      let s := (({} : Session).run past).2
      ∃ outcome : Outcome, (({} : Session).run steps).1[i]? = some outcome ∧
        (∀ h, outcome.calls.count h = if s.consults h step.action then 1 else 0) ∧
        ∀ t q h rule es, step.action = .ask t q → s.classifierOf t = .ok (.ruled h rule) →
          q.texts = .ok es →
          let k := consultations h {} past
          outcome.answer = rule.answer k q.value >>= q.conclude es ∧
            ∀ answers given, rule = .sequence answers →
              answers[min k (answers.length - 1)]? = some given →
              outcome.answer = q.conclude es given := by
  have hinitial : ({} : Session).registry.All Classifier.IsDirect := Registry.All.initial trivial
  have hcount : ∀ past : List Step, (∀ step ∈ past, step.IsDirect) → ∀ h,
      (({} : Session).run past).2.history.count h = consultations h {} past := by
    intro past hpast h
    rw [count_history_run h hinitial hpast]
    exact Nat.zero_add _
  refine ⟨hcount steps hsteps, fun i step hi => ?_⟩
  intro past s
  have hpast : ∀ step ∈ past, step.IsDirect := fun x hx => hsteps x (List.mem_of_mem_take hx)
  have hs : s.registry.All Classifier.IsDirect :=
    all_run trivial hinitial fun x hx c hc _ => hpast x hx c hc
  refine ⟨(s.step step).1, by rw [getElem?_run, hi]; rfl,
    count_calls_step hs (hsteps step (List.mem_of_getElem? hi)), ?_⟩
  intro t q h rule es ha hc ht k
  have hanswer := answer_step_of_ruled ha hc ht
  rw [hcount past hpast] at hanswer
  refine ⟨hanswer, ?_⟩
  rintro answers given rfl hgiven
  rw [hanswer, Rule.answer_sequence hgiven]
  rfl

end

/-- One sequence that the process and two checkers share: what cannot be read takes none of its
answers, and a mismatch takes one, so the second answer is left for the second checker. -/
theorem second_consultation_through_another_checker :
    let h : Handle := .named "names"
    let c : Classifier := .ruled h (.sequence [.text "int", .text "str"])
    let past : List Step := [
      { action := .edit (.setAmbient c) },
      { action := .edit (.create "a" (some c)) },
      { action := .edit (.create "b" (some c)) },
      { action := .ask (.stored "a") (.check (.int 0) (.int 5)) },
      { action := .ask .ambient (.check (.sequence .list [.text "str", .text "float"]) (.int 5)) }]
    let step : Step := { action := .ask (.stored "b") (.acceptsEntry (.text "str") (.int 5)) }
    (∀ x ∈ past ++ [step], x.IsDirect) ∧ consultations h {} past = 1 ∧
      ∃ outcome : Outcome, (({} : Session).run (past ++ [step])).1[5]? = some outcome ∧
        outcome.calls.count h = 1 ∧ outcome.answer = .ok (.truth true) := by
  intro h c past step
  have hdirect : ∀ x ∈ past ++ [step], x.IsDirect := by decide
  obtain ⟨outcome, ho, hcalls, hanswer⟩ := (each_consultation_is_one_call _ hdirect).2 5 step rfl
  have hc : (({} : Session).run past).2.classifierOf (.stored "b") = .ok c := rfl
  refine ⟨hdirect, rfl, outcome, ho, hcalls h, ?_⟩
  exact (hanswer _ _ h _ ["str"] rfl hc rfl).2 _ (.text "str") rfl rfl

end Session

end NominalCheck
