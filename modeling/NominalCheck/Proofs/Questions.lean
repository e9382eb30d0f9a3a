import NominalCheck.Proofs.Admission
import NominalCheck.Session

/-!
# What a question comes to

All five questions go the same way: something is read, the classifier is asked once, and from its
answer alone the reply is concluded.  The conclusion is written down here on raw entry texts, and
each question is shown to reach it.

## Main definitions

* `Question.texts q`, `Question.value q` — what `q` reads, and the value it is about.
* `Question.conclude q es given` — the reply once `es` is read and the classifier answers `given`.
* `Classifier.handle? c`, `Classifier.innerCalls` — the handle that a call of `c` notes, and the
  calls that `c` makes itself.

## Main results

* `Question.run_eq` — every question is read, asked once and concluded from the answer.
* `Session.ask_of_unreadable` — what cannot be read is the fault, and nobody is called.
* `Session.outcome_ask_of_ok`, `Session.calls_ask_of_ok` — else the target's classifier is asked
  once, and its answer is concluded from.
-/

namespace NominalCheck

/-! ### Composing runs -/

namespace Run

variable {α β : Type}

/-- Runs compose as computations do: what happens on the way is kept in order. -/
instance : LawfulMonad Run := LawfulMonad.mk' Run
  (fun r => by
    change r >>= Pure.pure = r
    cases h : r.outcome with
    | error e => rw [bind_of_error h, ← h]
    | ok a => rw [bind_of_ok h, pure_eq, List.append_nil, List.append_nil, ← h])
  (fun _ _ => rfl)
  (fun r f g => by
    cases h : r.outcome with
    | error e => rw [bind_of_error h, bind_of_error h, bind_of_error rfl]
    | ok a =>
      rw [bind_of_ok h, bind_of_ok h]
      cases hf : (f a).outcome with
      | error e => rw [bind_of_error hf, bind_of_error rfl]
      | ok b => rw [bind_of_ok hf, bind_of_ok rfl, List.append_assoc, List.append_assoc])

theorem outcome_bind (r : Run α) (f : α → Run β) :
    (r >>= f).outcome = r.outcome >>= fun a => (f a).outcome := by
  cases h : r.outcome with
  | error e => rw [bind_of_error h]; rfl
  | ok a => rw [bind_of_ok h]; rfl

/-- A run that is followed by silent ones makes its own calls only. -/
theorem calls_bind_of_silent (r : Run α) {f : α → Run β} (h : ∀ a, (f a).calls = []) :
    (r >>= f).calls = r.calls := by
  cases hr : r.outcome with
  | error e => rw [bind_of_error hr]
  | ok a => rw [bind_of_ok hr, h, List.append_nil]

theorem ofExcept_error_bind (e : Fault) (f : α → Run β) : ofExcept (.error e) >>= f = fail e := rfl

theorem ofExcept_ok_bind (a : α) (f : α → Run β) : ofExcept (.ok a) >>= f = f a := rfl

/-- What is read and then changed is read in its changed form. -/
theorem ofExcept_map_bind (x : Except Fault α) (g : α → β) {γ : Type} (f : β → Run γ) :
    ofExcept (x.map g) >>= f = ofExcept x >>= fun a => f (g a) := by
  cases x <;> rfl

end Run

/-! ### The calls of a classifier -/

namespace Classifier

/-- The handle that a call of the classifier notes: that of its own, if it keeps count. -/
def handle? : Classifier → Option Handle
  | .ruled handle _ => some handle
  | .nested handle _ => some handle
  | _ => none

/-- Whether the classifier asks no other. -/
def IsDirect : Classifier → Prop
  | .nested _ _ => False
  | _ => True

instance : DecidablePred IsDirect := fun c => by
  cases c <;> unfold IsDirect <;> infer_instance

/-- The calls that a classifier makes itself before it answers: a nested one asks the process-wide
classifier, once its descriptor is read. -/
def innerCalls (c ambient : Classifier) (history : List Handle) (v : Value) : List Handle :=
  match c with
  | .nested handle descriptor => match descriptor.entryTexts with
    | .ok _ => (ambient.askAmbient (history ++ [handle]) v).calls
    | .error _ => []
  | _ => []

theorem innerCalls_of_isDirect {c : Classifier} (h : c.IsDirect) (ambient : Classifier)
    (history : List Handle) (v : Value) : c.innerCalls ambient history v = [] := by
  cases c with
  | nested handle descriptor => exact h.elim
  | _ => rfl

/-- To ask a classifier is to call it once, and whatever it then calls itself. -/
theorem calls_ask (c ambient : Classifier) (history : List Handle) (v : Value) :
    (c.ask ambient history v).calls = c.handle?.toList ++ c.innerCalls ambient history v := by
  cases c with
  | native => rfl
  | value f => rfl
  | ruled handle rule => rfl
  | nested handle descriptor =>
    refine congrArg ([handle] ++ ·) ?_
    change (Run.ofExcept descriptor.entries >>= _).calls = _
    rw [innerCalls, Value.entries, Run.ofExcept_map_bind]
    cases descriptor.entryTexts with
    | error f => rfl
    | ok es =>
      rw [Run.ofExcept_ok_bind]
      exact Run.calls_bind_of_silent _ fun _ => rfl

end Classifier

/-! ### Questions -/

namespace Question

/-- The entry texts that a question reads before it asks a classifier. -/
def texts : Question → Except Fault (List String)
  | .check descriptor _ => descriptor.entryTexts
  | .accepts descriptor _ => descriptor.entryTexts
  | .assertEntry entry _ => entry.entryText.map ([·])
  | .acceptsEntry entry _ => entry.entryText.map ([·])
  | .classify _ => .ok []

/-- The value that a question is about. -/
def value : Question → Value
  | .check _ v => v
  | .accepts _ v => v
  | .assertEntry _ v => v
  | .acceptsEntry _ v => v
  | .classify v => v

/-- The reply to a question, once the entry texts are read and the classifier has answered: a
verdict is told, or is raised as a mismatch with the entry texts as they were given. -/
def conclude (q : Question) (es : List String) (given : Value) : Except Fault Reply :=
  match q with
  | .check _ v => (judge es v given).raised ("any of: " ++ ", ".intercalate es)
  | .accepts _ v => (judge es v given).told
  | .assertEntry _ v => (judge es v given).raised (", ".intercalate es)
  | .acceptsEntry _ v => (judge es v given).told
  | .classify _ => .ok (.value given)

theorem expectedText_map_parse (es : List String) :
    expectedText (es.map Entry.parse) = "any of: " ++ ", ".intercalate es := by
  have h : (es.map Entry.parse).map Entry.render = es := by
    rw [List.map_map]
    exact List.map_id'' Entry.render_parse es
  rw [expectedText, h]

/-- What a question tells before it reads anything. -/
def opening : Question → Run Unit
  | .check descriptor v => .tell (.check descriptor v)
  | _ => pure ()

/-- The events that a question tells once the classifier has answered. -/
def trace (q : Question) (es : List String) (given : Value) : List Event :=
  match q with
  | .check _ v => .trying v (es.map Entry.parse) :: trials v given (es.map Entry.parse)
  | .accepts _ v => .trying v (es.map Entry.parse) :: trials v given (es.map Entry.parse)
  | .assertEntry _ v => es.map fun e => .testing (Entry.parse e).name v
  | .acceptsEntry _ v => es.map fun e => .testing (Entry.parse e).name v
  | .classify _ => []

/-- The end of a question, once the classifier has answered. -/
def finish (q : Question) (es : List String) (given : Value) : Run Reply :=
  { outcome := q.conclude es given, events := q.trace es given }

/-- What is tried is demanded: either all is done, or the mismatch is raised. -/
theorem demand_eq {r : Run Bool} {es : List String} {v given : Value}
    (hr : r.outcome = .ok (decide (Admits es v given))) (hc : r.calls = [])
    (expected : String) :
    (r >>= fun accepted => (fun _ => Reply.done) <$>
        if accepted then pure () else Run.fail (.mismatch expected given))
      = { outcome := (judge es v given).raised expected, events := r.events } := by
  rw [Run.bind_of_ok hr, hc]
  by_cases h : Admits es v given
  · rw [decide_eq_true h, judge_of_admits h]
    exact congrArg (Run.mk _ _) (List.append_nil _)
  · rw [decide_eq_false h, judge_of_not_admits h]
    exact congrArg (Run.mk _ _) (List.append_nil _)

/-- Every question is opened, read and asked once, and ends with what follows from the answer. -/
theorem run_eq (q : Question) (k : Checker) :
    q.run k = q.opening >>= fun _ => Run.ofExcept q.texts >>= fun es =>
      k.classify q.value >>= q.finish es := by
  cases q with
  | check descriptor v =>
    simp only [run, Checker.check, Value.entries, Run.ofExcept_map_bind, map_bind]
    refine congrArg (_ >>= ·) (funext fun _ => congrArg (_ >>= ·) (funext fun es =>
      congrArg (_ >>= ·) (funext fun given => ?_)))
    rw [expectedText_map_parse]
    exact demand_eq (congrArg Except.ok (any_accepts_eq es v given)) rfl _
  | accepts descriptor v =>
    simp only [run, Checker.accepts, Value.entries, Run.ofExcept_map_bind, map_bind]
    refine congrArg (_ >>= ·) (funext fun es => congrArg (_ >>= ·) (funext fun given => ?_))
    rw [finish, conclude, told_judge, ← any_accepts_eq]
    exact congrArg (Run.mk _ _) (List.append_nil _)
  | assertEntry entry v =>
    simp only [run, texts, Checker.assertEntry, Run.ofExcept_map_bind, map_bind]
    refine congrArg (_ >>= ·) (funext fun e => congrArg (_ >>= ·) (funext fun given => ?_))
    rw [Entry.render_parse]
    exact demand_eq (congrArg Except.ok (Entry.accepts_parse_eq e v given)) rfl _
  | acceptsEntry entry v =>
    simp only [run, texts, Checker.acceptsEntry, Run.ofExcept_map_bind, map_bind]
    refine congrArg (_ >>= ·) (funext fun e => congrArg (_ >>= ·) (funext fun given => ?_))
    rw [finish, conclude, told_judge, ← Entry.accepts_parse_eq]
    exact congrArg (Run.mk _ _) (List.append_nil _)
  | classify v =>
    change (k.classify v >>= fun given => pure (Reply.value given)) = _
    rfl

variable {q : Question} {k : Checker}

/-- What a question tells before it reads anything is told first, and nothing else is done. -/
theorem opening_bind (q : Question) (r : Run Reply) :
    (q.opening >>= fun _ => r) =
      { outcome := r.outcome, calls := r.calls, events := q.opening.events ++ r.events } := by
  cases q <;> rfl

/-- A question comes to the same under answers that are alike. -/
theorem run_congr {k k' : Checker} (h : k.classify q.value = k'.classify q.value) :
    q.run k = q.run k' := by
  rw [run_eq, run_eq, h]

/-- What cannot be read is the fault, and no classifier is called. -/
theorem run_of_error {f : Fault} (h : q.texts = .error f) :
    (q.run k).outcome = .error f ∧ (q.run k).calls = [] := by
  rw [run_eq, h, Run.ofExcept_error_bind, opening_bind]
  exact ⟨rfl, rfl⟩

/-- Once all is read, the reply is concluded from the classifier's answer. -/
theorem outcome_run_of_ok {es : List String} (h : q.texts = .ok es) :
    (q.run k).outcome = (k.classify q.value).outcome >>= q.conclude es := by
  rw [run_eq, h, Run.ofExcept_ok_bind, opening_bind]
  exact Run.outcome_bind _ _

/-- Once all is read, the classifier is asked, and that once. -/
theorem calls_run_of_ok {es : List String} (h : q.texts = .ok es) :
    (q.run k).calls = (k.classify q.value).calls := by
  rw [run_eq, h, Run.ofExcept_ok_bind, opening_bind]
  exact Run.calls_bind_of_silent _ fun _ => rfl

end Question

/-! ### Targets -/

namespace Session

variable {s : Session} {t : Target} {q : Question} {c : Classifier} {f : Fault} {es : List String}

theorem ask_of_missing (hc : s.classifierOf t = .error f) (q : Question) : s.ask t q = .fail f := by
  rw [ask, hc, Run.ofExcept_error_bind]

theorem ask_of_ok (hc : s.classifierOf t = .ok c) (q : Question) :
    s.ask t q = q.run (s.checkerOf c) := by
  rw [ask, hc, Run.ofExcept_ok_bind]

/-- A target that is there fails on what cannot be read, and calls nobody. -/
theorem ask_of_unreadable (hc : s.classifierOf t = .ok c) (ht : q.texts = .error f) :
    (s.ask t q).outcome = .error f ∧ (s.ask t q).calls = [] := by
  rw [ask_of_ok hc]
  exact Question.run_of_error ht

/-- Else it concludes from its classifier's answer. -/
theorem outcome_ask_of_ok (hc : s.classifierOf t = .ok c) (ht : q.texts = .ok es) :
    (s.ask t q).outcome
      = (c.ask s.registry.ambient s.history q.value).outcome >>= q.conclude es := by
  rw [ask_of_ok hc, Question.outcome_run_of_ok ht]
  rfl

/-- Once it has answered, the reply follows. -/
theorem outcome_ask_of_answer {given : Value} (hc : s.classifierOf t = .ok c)
    (ht : q.texts = .ok es)
    (ha : (c.ask s.registry.ambient s.history q.value).outcome = .ok given) :
    (s.ask t q).outcome = q.conclude es given := by
  rw [outcome_ask_of_ok hc ht, ha]
  rfl

/-- And its calls are those of asking the classifier once. -/
theorem calls_ask_of_ok (hc : s.classifierOf t = .ok c) (ht : q.texts = .ok es) :
    (s.ask t q).calls = (c.ask s.registry.ambient s.history q.value).calls := by
  rw [ask_of_ok hc, Question.calls_run_of_ok ht]
  rfl

end Session

end NominalCheck
